import Mathlib.Data.List.Perm.Subperm
import KrotRelay.Source.Inspector

/-!
# What the inspector keeps

The ring holds the last entries made, oldest first, whatever is recorded in what order. The
table of start times is cut back with the ring only by `record_request`: an entry that a
passthrough accept pushes out leaves its start time behind.
-/
namespace KrotRelay.Guarantees
open Source Lib List

/-- A call of the inspector, with the readings of the clocks. -/
inductive Recording where
  | accept («prelude» : InspectionPrelude) (timeMs : Nat)
  | request (method path : Option String) (timeMs : Nat) (now : Instant)
  | response (id : EntryId) (status : UInt16) (now : Instant)

/-- Does the call make an entry? -/
def Recording.makesEntry : Recording → Bool
  | .accept «prelude» _ => «prelude».isPassthrough
  | .request .. => true
  | .response .. => false

/-- The inspector and, observed only, the ids of the entries it has made. -/
structure Recorder where
  inspector : Inspector
  ids : List EntryId

namespace Recorder

def new : Recorder := ⟨.new, []⟩

def record (recorder : Recorder) (call : Recording) : Recorder where
  inspector :=
    match call with
    | .accept «prelude» timeMs => recorder.inspector.recordAccept «prelude» timeMs
    | .request method path timeMs now => (recorder.inspector.recordRequest method path timeMs now).2
    | .response id status now => recorder.inspector.recordResponse id status now
  ids := if call.makesEntry then recorder.ids ++ [recorder.inspector.nextId] else recorder.ids

/-- The state after a sequence of calls. -/
def after (calls : List Recording) : Recorder := calls.foldl record new

def held (recorder : Recorder) : List EntryId := recorder.inspector.entries.map (·.id)

theorem after_concat (calls : List Recording) (call : Recording) :
    after (calls ++ [call]) = (after calls).record call := by
  rw [after, foldl_append]
  rfl

end Recorder

/-- Every start time belongs to an entry of the ring, so there are not more of them. -/
def StartsHeld (recorder : Recorder) : Prop :=
  (∀ id ∈ recorder.inspector.pendingStart, id ∈ recorder.held) ∧
    recorder.inspector.pendingStart.keys.length ≤ historyCap

/-- A passthrough accept pushes out an entry whose request is not answered. -/
def Forgets (recorder : Recorder) : Recording → Prop
  | .accept «prelude» _ => «prelude».isPassthrough = true ∧
      recorder.inspector.entries.length = historyCap ∧
      ∃ id, recorder.held.head? = some id ∧ id ∈ recorder.inspector.pendingStart
  | _ => False

/-! ## The ring -/

theorem map_push (entries : List InspectorEntry) (entry : InspectorEntry) :
    (Inspector.push entries entry).map (·.id) =
      (if entries.length = historyCap then (entries.map (·.id)).tail else entries.map (·.id)) ++
        [entry.id] := by
  rw [Inspector.push, map_append, apply_ite (List.map _), map_tail]
  rfl

/-- What a call does to the ids of the ring and to the counter. -/
theorem record_effects (recorder : Recorder) (call : Recording) : if call.makesEntry then
      (recorder.record call).held =
        (if recorder.held.length = historyCap then recorder.held.tail else recorder.held) ++
          [recorder.inspector.nextId] ∧
      (recorder.record call).inspector.nextId = recorder.inspector.nextId + 1
    else
      (recorder.record call).held = recorder.held ∧
      (recorder.record call).inspector.nextId = recorder.inspector.nextId := by
  cases call with
  | accept «prelude» timeMs =>
    cases through : «prelude».isPassthrough with
    | true =>
      simp only [Recording.makesEntry, through, if_true, Recorder.held, Recorder.record,
        Inspector.recordAccept, Inspector.flushPendingAcceptLocked, map_push, length_map, and_self]
    | false =>
      simp [Recording.makesEntry, through, Recorder.held, Recorder.record, Inspector.recordAccept]
  | request method path timeMs now =>
    simp only [Recording.makesEntry, if_true, Recorder.held, Recorder.record,
      Inspector.recordRequest, map_push, length_map, and_self]
  | response id status now =>
    simp only [Recording.makesEntry, Bool.false_eq_true, if_false, Recorder.held, Recorder.record,
      Inspector.recordResponse]
    refine ⟨?_, trivial⟩
    -- the entry that is found keeps its id
    apply ext_getElem?
    intro i
    simp only [getElem?_map, getElem?_modify]
    split <;> cases recorder.inspector.entries[i]? <;> rfl

/-- The ids are given out in order, and the ring holds the last of them. -/
structure RingOrder (recorder : Recorder) : Prop where
  ids : recorder.ids = (List.range recorder.ids.length).map fun i => UInt64.ofNat (i + 1)
  next : recorder.inspector.nextId = UInt64.ofNat (recorder.ids.length + 1)
  last : recorder.held = recorder.ids.drop (recorder.ids.length - historyCap)

theorem RingOrder.record {recorder : Recorder} (numbered : RingOrder recorder) (call : Recording) :
    RingOrder (recorder.record call) := by
  have effects := record_effects recorder call
  cases makes : call.makesEntry with
  | false =>
    rw [makes] at effects
    have ids : (recorder.record call).ids = recorder.ids := by simp [Recorder.record, makes]
    exact ⟨by rw [ids]; exact numbered.ids, by rw [ids, effects.2]; exact numbered.next,
      by rw [ids, effects.1]; exact numbered.last⟩
  | true =>
    rw [makes] at effects
    have ids : (recorder.record call).ids = recorder.ids ++ [recorder.inspector.nextId] := by
      simp [Recorder.record, makes]
    refine ⟨?_, ?_, ?_⟩
    · rw [ids, length_append, length_singleton, range_succ, map_append,
        ← numbered.ids, numbered.next]
      rfl
    · rw [ids, length_append, length_singleton, effects.2, numbered.next]
      exact (UInt64.ofNat_add _ 1).symm
    · rw [ids, effects.1, numbered.last, length_drop, length_append, length_singleton]
      split
      · rename_i full
        have shift : recorder.ids.length - historyCap + 1 = recorder.ids.length + 1 - historyCap ∧
            recorder.ids.length + 1 - historyCap ≤ recorder.ids.length := by
          unfold historyCap at full ⊢
          omega
        rw [drop_append_of_le_length shift.2, tail_drop, shift.1]
      · rename_i room
        have whole : recorder.ids.length - historyCap = 0 ∧
            recorder.ids.length + 1 - historyCap = 0 := by
          unfold historyCap at room ⊢
          omega
        rw [whole.1, whole.2, drop_zero, drop_zero]

theorem ringOrder_after (calls : List Recording) : RingOrder (.after calls) := by
  induction calls using List.reverseRecOn with
  | nil => exact ⟨rfl, rfl, rfl⟩
  | append_singleton calls call ih =>
    rw [Recorder.after_concat]
    exact ih.record call

theorem RingOrder.length_held {recorder : Recorder} (numbered : RingOrder recorder) :
    recorder.held.length ≤ historyCap := by
  rw [numbered.last, length_drop]
  omega

/-- Below `2^64` entries the ids increase. -/
theorem RingOrder.increasing {recorder : Recorder} (numbered : RingOrder recorder)
    (few : recorder.ids.length < 2 ^ 64) : (recorder.ids.map UInt64.toNat).Pairwise (· < ·) := by
  have values : recorder.ids.map UInt64.toNat = (List.range recorder.ids.length).map (· + 1) := by
    conv_lhs => rw [numbered.ids]
    rw [map_map]
    refine map_congr_left fun i mem => ?_
    have small := mem_range.mp mem
    exact UInt64.toNat_ofNat_of_lt' (show i + 1 < 2 ^ 64 by omega)
  rw [values, pairwise_map]
  exact pairwise_lt_range.imp fun less => Nat.succ_lt_succ less

theorem RingOrder.nodup {recorder : Recorder} (numbered : RingOrder recorder)
    (few : recorder.ids.length < 2 ^ 64) : recorder.ids.Nodup :=
  List.Pairwise.of_map _ (fun _ _ less same => absurd (congrArg UInt64.toNat same) less.ne)
    (numbered.increasing few)

/-! ## The start times -/

/-- A response leaves no start time behind, a request adds its own and takes that of the entry
it pushes out, an accept changes none. -/
theorem record_starts (recorder : Recorder) (call : Recording) (id : EntryId) :
    id ∈ (recorder.record call).inspector.pendingStart ↔ match call with
      | .accept .. => id ∈ recorder.inspector.pendingStart
      | .request .. =>
        (id = recorder.inspector.nextId ∨ id ∈ recorder.inspector.pendingStart) ∧
          (recorder.held.length = historyCap → recorder.held.head? ≠ some id)
      | .response answered .. => id ≠ answered ∧ id ∈ recorder.inspector.pendingStart := by
  cases call with
  | accept «prelude» timeMs =>
    simp only [Recorder.record, Inspector.recordAccept, Inspector.flushPendingAcceptLocked]
    split <;> rfl
  | request method path timeMs now =>
    simp only [Recorder.record, Inspector.recordRequest, Recorder.held, length_map, head?_map]
    by_cases full : recorder.inspector.entries.length = historyCap
    · rw [if_pos full]
      cases recorder.inspector.entries.head? with
      | none => simp [AList.mem_insert]
      | some entry =>
        simp only [Option.elim_some, AList.mem_erase, AList.mem_insert, full, Option.map_some,
          forall_const, ne_eq, Option.some.injEq]
        rw [and_comm, eq_comm (a := entry.id)]
    · simp [AList.mem_insert, full]
  | response answered status now =>
    simp [Recorder.record, Inspector.recordResponse, AList.mem_erase]

/-- Start times of entries that are held are not more than the entries. -/
theorem startsHeld_iff {recorder : Recorder} (numbered : RingOrder recorder) :
    StartsHeld recorder ↔ ∀ id ∈ recorder.inspector.pendingStart, id ∈ recorder.held := by
  refine ⟨fun starts => starts.1, fun held => ⟨held, ?_⟩⟩
  have inside : recorder.inspector.pendingStart.keys ⊆ recorder.held := held
  have fewer := (subperm_of_subset recorder.inspector.pendingStart.keys_nodup inside).length_le
  exact fewer.trans numbered.length_held

/-- The entry at the front of a full ring is the one that goes. -/
theorem mem_held_record {recorder : Recorder} {call : Recording} {id : EntryId}
    (inside : id ∈ recorder.held)
    (stays : call.makesEntry = true → recorder.held.length = historyCap →
      recorder.held.head? ≠ some id) : id ∈ (recorder.record call).held := by
  have effects := record_effects recorder call
  cases makes : call.makesEntry with
  | false =>
    rw [makes] at effects
    rwa [effects.1]
  | true =>
    rw [makes] at effects
    rw [effects.1]
    refine mem_append_left _ ?_
    split
    · rename_i full
      cases shape : recorder.held with
      | nil =>
        rw [shape] at inside
        cases inside
      | cons first rest =>
        rw [shape] at inside stays
        refine (mem_cons.mp inside).resolve_left fun same => ?_
        exact stays makes (by rw [← shape]; exact full) (by rw [same]; rfl)
    · exact inside

theorem StartsHeld.record {recorder : Recorder} (numbered : RingOrder recorder) {call : Recording}
    (starts : StartsHeld recorder) (keeps : ¬ Forgets recorder call) :
    StartsHeld (recorder.record call) := by
  refine (startsHeld_iff (numbered.record call)).mpr fun id pending => ?_
  have origin := (record_starts recorder call id).mp pending
  cases call with
  | accept «prelude» timeMs =>
    refine mem_held_record (starts.1 id origin) fun through full first => ?_
    rw [Recorder.held, length_map] at full
    exact keeps ⟨through, full, id, first, origin⟩
  | request method path timeMs now =>
    obtain ⟨rfl | old, stays⟩ := origin
    · have effects := record_effects recorder (.request method path timeMs now)
      rw [Recording.makesEntry, if_pos rfl] at effects
      rw [effects.1]
      exact mem_append_right _ (mem_singleton_self _)
    · exact mem_held_record (starts.1 id old) fun _ => stays
  | response answered status now =>
    exact mem_held_record (starts.1 id origin.2) fun makes => absurd makes (by simp [Recording.makesEntry])

/-- The start time that is left behind has no entry. -/
theorem Forgets.not_held {recorder : Recorder} {call : Recording} (numbered : RingOrder recorder)
    (few : (recorder.record call).ids.length < 2 ^ 64) (forgets : Forgets recorder call) :
    ¬ StartsHeld (recorder.record call) := by
  cases call with
  | accept «prelude» timeMs =>
    obtain ⟨through, full, id, first, pending⟩ := forgets
    intro starts
    have still := starts.1 id ((record_starts recorder (.accept «prelude» timeMs) id).mpr pending)
    have effects := record_effects recorder (.accept «prelude» timeMs)
    have after := numbered.record (.accept «prelude» timeMs)
    have distinct := after.nodup few
    rw [Recording.makesEntry, if_pos through] at effects
    obtain ⟨rest, shape⟩ := head?_eq_some_iff.mp first
    have size : recorder.held.length = historyCap := by rw [Recorder.held, length_map, full]
    rw [effects.1, if_pos size, shape, tail_cons] at still
    -- the id would be given out twice
    have ids : (recorder.record (.accept «prelude» timeMs)).ids =
        recorder.ids ++ [recorder.inspector.nextId] := by
      simp [Recorder.record, Recording.makesEntry, through]
    have split_ : recorder.ids = recorder.ids.take (recorder.ids.length - historyCap) ++ id :: rest := by
      rw [← shape, numbered.last, take_append_drop]
    rw [ids, split_, append_assoc] at distinct
    have apart := (nodup_append.mp distinct).2.1
    rw [cons_append, nodup_cons] at apart
    exact apart.1 still
  | request => exact forgets.elim
  | response => exact forgets.elim

theorem ids_grow (front rest : List Recording) :
    (Recorder.after front).ids.length ≤ (Recorder.after (front ++ rest)).ids.length := by
  induction rest using List.reverseRecOn with
  | nil => rw [append_nil]
  | append_singleton rest call ih =>
    rw [← append_assoc, Recorder.after_concat]
    refine ih.trans ?_
    simp only [Recorder.record]
    split
    · rw [length_append]
      omega
    · exact le_rfl

/-- The ring holds the last entries made, and the start times are those of held entries at all
times exactly if no passthrough accept ever pushes out an unanswered request. -/
theorem inspector_memory_iff (calls : List Recording)
    (few : (Recorder.after calls).ids.length < 2 ^ 64) :
    ((Recorder.after calls).inspector.entries.length ≤ historyCap ∧
      ((Recorder.after calls).held.map UInt64.toNat).Pairwise (· < ·) ∧
      (Recorder.after calls).held =
        (Recorder.after calls).ids.drop ((Recorder.after calls).ids.length - historyCap)) ∧
    ((∀ front, front <+: calls → StartsHeld (.after front)) ↔
      ∀ front call, front ++ [call] <+: calls → ¬ Forgets (.after front) call) := by
  have numbered := ringOrder_after calls
  refine ⟨⟨?_, ?_, numbered.last⟩, ?_, ?_⟩
  · simpa [Recorder.held] using numbered.length_held
  · rw [numbered.last, map_drop]
    exact (numbered.increasing few).sublist (drop_sublist _ _)
  · rintro held front call ⟨rest, rfl⟩ forgets
    have after := held _ (prefix_append _ rest)
    rw [Recorder.after_concat] at after
    refine forgets.not_held (ringOrder_after front) ?_ after
    rw [← Recorder.after_concat]
    exact lt_of_le_of_lt (ids_grow _ rest) few
  · intro keeps front
    induction front using List.reverseRecOn with
    | nil => exact fun _ => ⟨fun id pending => absurd pending (AList.notMem_empty id), Nat.zero_le _⟩
    | append_singleton front call ih =>
      intro begins
      rw [Recorder.after_concat]
      exact (ih ((prefix_append front [call]).trans begins)).record (ringOrder_after front)
        (keeps front call begins)

def unnamedRequest : Recording := .request none none 0 0

/-- A TLS stream passed through to `shop.example`. -/
def tlsAccept : Recording := .accept ⟨0, "203.0.113.7:5000", some ⟨"", some "shop.example"⟩⟩ 0

/-- As many requests as the ring holds, all unanswered. -/
theorem unanswered_pending (fits : n ≤ historyCap) :
    (Recorder.after (List.replicate n unnamedRequest)).ids.length = n ∧
      ∀ id ∈ (Recorder.after (List.replicate n unnamedRequest)).ids,
        id ∈ (Recorder.after (List.replicate n unnamedRequest)).inspector.pendingStart := by
  induction n with
  | zero => exact ⟨rfl, fun id made => absurd made not_mem_nil⟩
  | succ n ih =>
    obtain ⟨count, pending⟩ := ih (Nat.le_of_succ_le fits)
    rw [replicate_succ', Recorder.after_concat]
    generalize before : Recorder.after (List.replicate n unnamedRequest) = recorder at *
    have room : recorder.held.length ≠ historyCap := by
      have last := (before ▸ ringOrder_after _ : RingOrder recorder).last
      rw [last, length_drop, count]
      omega
    have ids : (recorder.record unnamedRequest).ids = recorder.ids ++ [recorder.inspector.nextId] := rfl
    refine ⟨by rw [ids, length_append, count]; rfl, fun id made => ?_⟩
    refine (record_starts recorder unnamedRequest id).mpr ⟨?_, fun full => absurd full room⟩
    rw [ids, mem_append, mem_singleton] at made
    exact made.symm.imp_right (pending id)

theorem accepts_pending (calls : List Recording) (n : Nat) :
    (Recorder.after (calls ++ List.replicate n tlsAccept)).ids.length =
        (Recorder.after calls).ids.length + n ∧
      ∀ id, id ∈ (Recorder.after (calls ++ List.replicate n tlsAccept)).inspector.pendingStart ↔
        id ∈ (Recorder.after calls).inspector.pendingStart := by
  induction n with
  | zero => simp
  | succ n ih =>
    rw [replicate_succ', ← append_assoc, Recorder.after_concat]
    refine ⟨?_, fun id => (record_starts _ tlsAccept id).trans (ih.2 id)⟩
    rw [← Nat.add_assoc, ← ih.1]
    exact length_append

/-- So many requests, each answered before the next. -/
def answered (n : Nat) : List Recording :=
  (List.range n).flatMap fun i => [unnamedRequest, .response (UInt64.ofNat (i + 1)) 200 0]

theorem answered_pending (n : Nat) : (Recorder.after (answered n)).ids.length = n ∧
    ∀ id, id ∉ (Recorder.after (answered n)).inspector.pendingStart := by
  induction n with
  | zero => exact ⟨rfl, AList.notMem_empty⟩
  | succ n ih =>
    have both : Recorder.after (answered (n + 1)) = ((Recorder.after (answered n)).record
        unnamedRequest).record (.response (UInt64.ofNat (n + 1)) 200 0) := by
      rw [answered, range_succ, flatMap_append, ← answered, flatMap_singleton, Recorder.after,
        foldl_append]
      rfl
    have next := (ringOrder_after (answered n)).next
    rw [ih.1] at next
    rw [both]
    refine ⟨?_, fun id pending => ?_⟩
    · have ids : (((Recorder.after (answered n)).record unnamedRequest).record
          (.response (UInt64.ofNat (n + 1)) 200 0)).ids = (Recorder.after (answered n)).ids ++
            [(Recorder.after (answered n)).inspector.nextId] := rfl
      rw [ids, length_append, ih.1]
      rfl
    · obtain ⟨other, pending⟩ := (record_starts _ _ id).mp pending
      obtain ⟨same | old, _⟩ := (record_starts _ unnamedRequest id).mp pending
      · exact other (same.trans next)
      · exact ih.2 id old

/-- The ring is filled with answered requests and accepts push the first of them out. -/
def evicting : List Recording := answered historyCap ++ List.replicate 3 tlsAccept

theorem inspector_memory_iff_evicting : (Recorder.after evicting).ids.length = historyCap + 3 ∧
    (Recorder.after evicting).held = (Recorder.after evicting).ids.drop 3 ∧
    StartsHeld (.after evicting) := by
  obtain ⟨count, unpending⟩ := answered_pending historyCap
  have accepts := accepts_pending (answered historyCap)
  have made : (Recorder.after evicting).ids.length = historyCap + 3 := by
    rw [evicting, (accepts 3).1, count]
  have memory := inspector_memory_iff evicting (by rw [made]; decide)
  refine ⟨made, by rw [memory.1.2.2, made]; rfl, memory.2.mpr ?_ evicting prefix_rfl⟩
  rintro front (⟨«prelude», timeMs⟩ | _ | _) ⟨rest, whole⟩ forgets
  · obtain ⟨_, _, id, _, pending⟩ := forgets
    rw [append_assoc, evicting] at whole
    -- the accepts are behind the answers
    obtain ⟨between, ahead, here⟩ | ⟨between, rfl, behind⟩ := append_eq_append_iff.mp whole
    · cases between with
      | nil =>
        rw [append_nil] at ahead
        exact unpending id (ahead ▸ pending)
      | cons =>
        cases here
        have among : Recording.accept «prelude» timeMs ∈ answered historyCap := by simp [ahead]
        simp [answered, unnamedRequest] at among
    · have same : between = List.replicate between.length tlsAccept :=
        eq_replicate_of_mem fun call mem =>
          (eq_replicate_iff.mp behind.symm).2 call (mem_append_left _ mem)
      rw [same] at pending
      exact unpending id (((accepts between.length).2 id).mp pending)
  · exact forgets
  · exact forgets

/-- Unanswered requests, as many passthrough accepts, and one request more. -/
def leak : List Recording :=
  List.replicate historyCap unnamedRequest ++ List.replicate historyCap tlsAccept ++ [unnamedRequest]

/-- The ring is full of accepts, and every start time is still there. -/
theorem passthrough_leaks_starts :
    historyCap < (Recorder.after leak).inspector.pendingStart.keys.length ∧
      ¬ StartsHeld (.after leak) := by
  suffices more : historyCap < (Recorder.after leak).inspector.pendingStart.keys.length from
    ⟨more, fun starts => absurd starts.2 (Nat.not_le.mpr more)⟩
  obtain ⟨asked, pending⟩ := unanswered_pending le_rfl
  obtain ⟨made, kept⟩ := accepts_pending (List.replicate historyCap unnamedRequest) historyCap
  rw [leak, Recorder.after_concat]
  have numbered := ringOrder_after (List.replicate historyCap unnamedRequest)
  have later := ringOrder_after (List.replicate historyCap unnamedRequest ++
    List.replicate historyCap tlsAccept)
  generalize Recorder.after (List.replicate historyCap unnamedRequest ++
    List.replicate historyCap tlsAccept) = full at *
  generalize Recorder.after (List.replicate historyCap unnamedRequest) = recorder at *
  rw [asked] at made
  have first : full.held.head? = some (UInt64.ofNat (historyCap + 1)) := by
    rw [later.last, later.ids, made]
    simp [historyCap]
  have old : ∀ id ∈ recorder.ids, id.toNat ≤ historyCap := by
    intro id member
    rw [numbered.ids, asked] at member
    obtain ⟨i, below, rfl⟩ := mem_map.mp member
    have below := mem_range.mp below
    rw [UInt64.toNat_ofNat_of_lt' (show i + 1 < 2 ^ 64 by unfold historyCap at below; omega)]
    exact below
  have inside : recorder.ids ++ [full.inspector.nextId] ⊆
      (full.record unnamedRequest).inspector.pendingStart.keys := by
    intro id member
    refine (record_starts full unnamedRequest id).mpr ?_
    rw [first]
    rcases mem_append.mp member with asked | new
    · refine ⟨.inr ((kept id).mpr (pending id asked)), fun _ same => ?_⟩
      have small := old id asked
      rw [← Option.some.inj same] at small
      exact absurd small (by decide)
    · rw [mem_singleton.mp new, later.next, made]
      exact ⟨.inl rfl, fun _ => by decide⟩
  have distinct : (recorder.ids ++ [full.inspector.nextId]).Nodup := by
    refine nodup_append.mpr ⟨?_, nodup_singleton _, ?_⟩
    · exact (numbered.nodup (by rw [asked]; decide))
    · intro id member next new same
      have small := old id member
      rw [same, mem_singleton.mp new, later.next, made] at small
      exact absurd small (by decide)
  have fewer := (subperm_of_subset distinct inside).length_le
  rw [length_append, asked] at fewer
  exact fewer

end KrotRelay.Guarantees

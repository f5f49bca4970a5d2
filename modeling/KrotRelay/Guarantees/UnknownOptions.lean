import KrotRelay.Guarantees.KeyIndex
import KrotRelay.Guarantees.RateGrammar

/-!
# Options `parse_line` does not know

The options of a line are the words behind the key, cut again at their commas. A fragment
that does not begin with a known option continues the value before it, so a token with an
unknown name is part of the option in front of it and changes what that option says. The
exact condition under which the entry comes out with the same authorization is about the
option in front, its value and the options behind it.
-/
namespace KrotRelay.Guarantees
open Source Lib List Option

variable {tok text rest after before : List Char} {comma : Prop} {more : List (List Char)}
  {c last sep : Char} {n : Nat}

/-! ## The fragments of a line -/

def fragments (words : List (List Char)) : List (List Char) := words.flatMap (·.splitOn ',')

theorem splitOn_intercalate_words (word : List Char) (words : List (List Char)) :
    ([','].intercalate (word :: words)).splitOn ',' = fragments (word :: words) := by
  induction words generalizing word with
  | nil => simp [fragments]
  | cons next rest ih =>
    have joined : [','].intercalate (word :: next :: rest) =
        word ++ ',' :: [','].intercalate (next :: rest) := by
      simp [List.intercalate, List.intersperse]
    rw [joined, splitOn_append_cons_self, ih next]
    rfl

/-- A line without options has one empty fragment, which says nothing. -/
theorem optionPairs_eq (words : List (List Char)) :
    optionPairs words = (fragments words).foldl addFragment [] := by
  unfold optionPairs
  cases words with
  | nil => rfl
  | cons => rw [splitOn_intercalate_words]

theorem fragments_append (first second : List (List Char)) :
    fragments (first ++ second) = fragments first ++ fragments second := flatMap_append

/-- A known option. -/
def recognised (tok : List Char) : Option (OptionKey × List Char) :=
  (splitOnce '=' tok).bind fun (k, v) => (OptionKey.ofText k).map fun key => (key, v)

/-- What fragments add to the value before them. -/
def continued (more : List (List Char)) : List Char := more.flatMap (',' :: ·)

theorem addFragment_some {pair : OptionKey × List Char} (known : recognised tok = some pair)
    (pairs : List (OptionKey × List Char)) : addFragment pairs tok = pairs ++ [pair] := by
  unfold addFragment
  rw [show ((splitOnce '=' tok).bind fun (k, v) =>
    (OptionKey.ofText k).map fun key => (key, v)) = some pair from known]

theorem addFragment_nil (unknown : recognised tok = none) : addFragment [] tok = [] := by
  unfold addFragment
  rw [show ((splitOnce '=' tok).bind fun (k, v) =>
    (OptionKey.ofText k).map fun key => (key, v)) = none from unknown]
  rfl

theorem addFragment_concat (unknown : recognised tok = none)
    (earlier : List (OptionKey × List Char)) (key : OptionKey) (value : List Char) :
    addFragment (earlier ++ [(key, value)]) tok = earlier ++ [(key, value ++ ',' :: tok)] := by
  unfold addFragment
  rw [show ((splitOnce '=' tok).bind fun (k, v) =>
    (OptionKey.ofText k).map fun key => (key, v)) = none from unknown]
  simp

theorem foldl_addFragment_concat (unknown : ∀ tok ∈ more, recognised tok = none)
    (earlier : List (OptionKey × List Char)) (key : OptionKey) (value : List Char) :
    more.foldl addFragment (earlier ++ [(key, value)]) =
      earlier ++ [(key, value ++ continued more)] := by
  induction more generalizing value with
  | nil => simp [continued]
  | cons tok _ ih =>
    rw [foldl_cons, addFragment_concat (unknown tok mem_cons_self),
      ih fun other mem => unknown other (mem_cons_of_mem _ mem)]
    simp [continued]

/-- From a known option on, what came before makes no difference. -/
theorem foldl_addFragment_known
    (begins : ∀ tok, more.head? = some tok → (recognised tok).isSome = true)
    (pairs : List (OptionKey × List Char)) :
    more.foldl addFragment pairs = pairs ++ more.foldl addFragment [] := by
  cases more with
  | nil => rw [foldl_nil, foldl_nil, append_nil]
  | cons tok rest =>
    obtain ⟨pair, known⟩ := isSome_iff_exists.mp (begins tok rfl)
    rw [foldl_cons, foldl_cons, addFragment_some known, addFragment_some known, nil_append]
    -- both sides now end with the same option, and what follows only looks at that
    have shift : ∀ (rest : List (List Char)) (front back : List (OptionKey × List Char)),
        back ≠ [] → rest.foldl addFragment (front ++ back) = front ++ rest.foldl addFragment back := by
      intro rest
      induction rest with
      | nil => exact fun _ _ _ => rfl
      | cons next _ ih =>
        intro front back nonempty
        rw [foldl_cons, foldl_cons]
        cases known : recognised next with
        | some =>
          rw [addFragment_some known, addFragment_some known, append_assoc, ih front _ (by simp)]
        | none =>
          obtain ⟨most, ⟨key, value⟩, rfl⟩ : ∃ most last, back = most ++ [last] :=
            ⟨_, _, (dropLast_append_getLast nonempty).symm⟩
          rw [← append_assoc, addFragment_concat known, addFragment_concat known,
            append_assoc, ih front _ (by simp)]
    exact shift rest pairs [pair] (cons_ne_nil _ _)

/-! ## What an option sets -/

/-- A field each option either sets, whatever it was, or leaves alone. -/
structure Field (β : Type) where
  get : AuthorizedEntry → β
  sets : OptionKey × List Char → Option β
  law : ∀ entry pair, get (applyOption entry pair) = (sets pair).getD (get entry)

namespace Field

def anySubdomain : Field Bool where
  get := AuthorizedEntry.allowAnySubdomain
  sets
    | (.subdomain, v) => if v = "*".toList then some true else none
    | _ => none
  law entry pair := by
    obtain ⟨key, v⟩ := pair
    cases key <;> simp only [applyOption, getD_none]
    split <;> rfl

def subdomains : Field (List String) where
  get := AuthorizedEntry.allowedSubdomains
  sets
    | (.subdomain, v) => if v = "*".toList then none else some ((v.splitOn ',').map String.ofList)
    | _ => none
  law entry pair := by
    obtain ⟨key, v⟩ := pair
    cases key <;> simp only [applyOption, getD_none]
    split <;> rfl

/-- An option touches its own field only. -/
theorem applyOption_frame (entry : AuthorizedEntry) (key : OptionKey) (v : List Char) :
    (key ≠ .conns → (applyOption entry (key, v)).maxConns = entry.maxConns) ∧
      (key ≠ .ports → (applyOption entry (key, v)).allowedPorts = entry.allowedPorts) ∧
      (key ≠ .bw → (applyOption entry (key, v)).bw = entry.bw) ∧
      (key ≠ .quota → (applyOption entry (key, v)).quota = entry.quota) ∧
      (key ≠ .federation → (applyOption entry (key, v)).federation = entry.federation) := by
  cases key with
  | subdomain =>
    simp only [applyOption]
    split <;> simp
  | conns | bw | quota | ports | federation => simp [applyOption]

/-- A field that belongs to one option and takes its value from it. -/
def ofKey {β : Type} (key : OptionKey) (get : AuthorizedEntry → β) (value : List Char → β)
    (hit : ∀ entry v, get (applyOption entry (key, v)) = value v)
    (miss : ∀ entry other v, other ≠ key → get (applyOption entry (other, v)) = get entry) :
    Field β where
  get := get
  sets pair := if pair.1 = key then some (value pair.2) else none
  law entry pair := by
    obtain ⟨other, v⟩ := pair
    by_cases mine : other = key
    · subst mine
      simp [hit]
    · simp [mine, miss entry other v mine]

def conns : Field (Option UInt32) :=
  ofKey .conns AuthorizedEntry.maxConns (fun v => (parseUnsigned (2 ^ 32) v).map UInt32.ofNat)
    (fun _ _ => rfl) fun entry other v => (applyOption_frame entry other v).1

def ports : Field (Option (List UInt16)) :=
  ofKey .ports AuthorizedEntry.allowedPorts parsePorts
    (fun _ _ => rfl) fun entry other v => (applyOption_frame entry other v).2.1

def bw : Field (Option RatePer) :=
  ofKey .bw AuthorizedEntry.bw parseRatePer
    (fun _ _ => rfl) fun entry other v => (applyOption_frame entry other v).2.2.1

def quota : Field (Option RatePer) :=
  ofKey .quota AuthorizedEntry.quota parseRatePer
    (fun _ _ => rfl) fun entry other v => (applyOption_frame entry other v).2.2.2.1

def apexes (v : List Char) : List (List Char) :=
  ((v.splitOn ',').map trim).filter fun apex => !apex.isEmpty

def federation : Field (List String) :=
  ofKey .federation AuthorizedEntry.federation (fun v => (apexes v).map String.ofList)
    (fun _ _ => rfl) fun entry other v => (applyOption_frame entry other v).2.2.2.2

variable {β : Type} (field : Field β)

/-- The last option that sets a field decides it. -/
theorem get_foldl (pairs : List (OptionKey × List Char)) (entry : AuthorizedEntry) :
    field.get (pairs.foldl applyOption entry) =
      ((pairs.filterMap field.sets).getLast?).getD (field.get entry) := by
  induction pairs generalizing entry with
  | nil => rfl
  | cons pair _ ih =>
    rw [foldl_cons, ih, field.law, filterMap_cons]
    cases field.sets pair with
    | none => rfl
    | some =>
      rw [getD_some, getLast?_cons, getD_some]

/-- One option replaced by another: the field is the same if a later option sets it, or if
the two set it to the same. -/
theorem get_foldl_eq_iff (earlier later : List (OptionKey × List Char))
    (pair other : OptionKey × List Char) (entry : AuthorizedEntry) :
    field.get ((earlier ++ pair :: later).foldl applyOption entry) =
        field.get ((earlier ++ other :: later).foldl applyOption entry) ↔
      (∃ last ∈ later, (field.sets last).isSome = true) ∨
        (field.sets pair).getD (field.get (earlier.foldl applyOption entry)) =
          (field.sets other).getD (field.get (earlier.foldl applyOption entry)) := by
  simp only [foldl_append, foldl_cons, field.get_foldl later, field.law]
  cases deciding : (later.filterMap field.sets).getLast? with
  | some =>
    have set_ : ∃ last ∈ later, (field.sets last).isSome = true := by
      obtain ⟨last, mem, sets⟩ := mem_filterMap.mp (mem_of_getLast? deciding)
      exact ⟨last, mem, by rw [sets]; rfl⟩
    exact iff_of_true rfl (.inl set_)
  | none =>
    have unset : ¬ ∃ last ∈ later, (field.sets last).isSome = true := by
      rintro ⟨last, mem, sets⟩
      obtain ⟨value, set_⟩ := isSome_iff_exists.mp sets
      have present := mem_filterMap.mpr ⟨last, mem, set_⟩
      rw [getLast?_eq_none_iff.mp deciding] at present
      cases present
    rw [or_iff_right unset]
    rfl

/-- The same for a field that belongs to one option. -/
theorem get_foldl_eq_iff_of_owned (key : OptionKey) (value : List Char → β)
    (owned : ∀ pair, field.sets pair = if pair.1 = key then some (value pair.2) else none)
    (earlier later : List (OptionKey × List Char)) (mine : OptionKey) (old new : List Char)
    (entry : AuthorizedEntry) :
    field.get ((earlier ++ (mine, old) :: later).foldl applyOption entry) =
        field.get ((earlier ++ (mine, new) :: later).foldl applyOption entry) ↔
      mine ≠ key ∨ (∃ last ∈ later, last.1 = key) ∨ value old = value new := by
  rw [get_foldl_eq_iff]
  simp only [owned]
  by_cases same : mine = key
  · simp [same]
  · simp [same]

end Field

/-! ## What the token does to a value -/

section Spoiled
variable {value tok : List Char} {more : List (List Char)}

theorem splitOn_continued (value : List Char) (more : List (List Char))
    (single : ∀ piece ∈ more, ',' ∉ piece) :
    (value ++ continued more).splitOn ',' = value.splitOn ',' ++ more := by
  induction more generalizing value with
  | nil => simp [continued]
  | cons piece rest ih =>
    have rejoined : value ++ continued (piece :: rest) = (value ++ ',' :: piece) ++ continued rest := by
      simp [continued]
    rw [rejoined, ih _ fun other mem => single other (mem_cons_of_mem _ mem),
      splitOn_append_cons_self, splitOn_eq_singleton (single piece mem_cons_self),
      append_assoc, singleton_append]

theorem comma_mem_continued (value tok : List Char) (more : List (List Char)) :
    ',' ∈ value ++ continued (tok :: more) := by
  simp [continued]

/-- A rate has no comma. -/
theorem parseRatePer_comma {text : List Char} (comma : ',' ∈ text) : parseRatePer text = none := by
  cases parsed : parseRatePer text with
  | none => rfl
  | some => exact absurd (parseRatePer_plain parsed ',' comma) (by simp)

theorem parsePort_equals (equals : '=' ∈ text) : parsePort text = none :=
  parseUnsigned_eq_none _ equals (by decide) (by decide)

theorem parsePortItem_equals {part : List Char} (equals : '=' ∈ part) :
    parsePortItem part = none := by
  unfold parsePortItem
  cases split : splitOnce '-' part with
  | none => simp only [parsePort_equals equals, map_none]
  | some bounds =>
    obtain ⟨lo, hi⟩ := bounds
    simp only [bind_eq_bind]
    obtain ⟨rfl, -⟩ := splitOnce_eq_some_iff.mp split
    rcases (by simpa using equals : '=' ∈ lo ∨ '=' ∈ hi) with inLo | inHi
    · rw [parsePort_equals (mem_trim inLo (by decide))]
      rfl
    · rw [parsePort_equals (mem_trim inHi (by decide))]
      cases parsePort (trim lo) <;> rfl

theorem mapM_eq_none {α β : Type} {f : α → Option β} {items : List α} {item : α}
    (mem : item ∈ items) (failed : f item = none) : items.mapM f = none := by
  induction items with
  | nil => cases mem
  | cons first _ ih =>
    rw [mapM_cons]
    rcases mem_cons.mp mem with rfl | later
    · rw [failed]
      rfl
    · rw [ih later]
      cases f first <;> rfl

/-- No port or range is written with an equals sign. -/
theorem parsePorts_continued (single : ∀ piece ∈ tok :: more, ',' ∉ piece) (equals : '=' ∈ tok) :
    parsePorts (value ++ continued (tok :: more)) = none := by
  have item : parsePortItem (trim tok) = none := parsePortItem_equals (mem_trim equals (by decide))
  unfold parsePorts
  rw [splitOn_continued _ _ single, mapM_eq_none (show tok ∈ value.splitOn ',' ++ tok :: more by simp) item]
  rfl

theorem apexes_continued (single : ∀ piece ∈ tok :: more, ',' ∉ piece) (equals : '=' ∈ tok) :
    (Field.apexes (value ++ continued more)).map String.ofList ≠
      (Field.apexes (value ++ continued (tok :: more))).map String.ofList := by
  have nonempty : (!(trim tok).isEmpty) = true := by
    cases shape : trim tok with
    | nil =>
      have inside := mem_trim equals (by decide)
      rw [shape] at inside
      cases inside
    | cons => rfl
  intro same
  have sizes := congrArg List.length same
  rw [length_map, length_map] at sizes
  unfold Field.apexes at sizes
  rw [splitOn_continued _ _ single,
    splitOn_continued _ _ fun piece mem => single piece (mem_cons_of_mem _ mem),
    map_append, map_append, map_cons, filter_append, filter_append,
    filter_cons, if_pos nonempty] at sizes
  simp at sizes

theorem splitOn_continued_ne (single : ∀ piece ∈ tok :: more, ',' ∉ piece) :
    ((value ++ continued more).splitOn ',').map String.ofList ≠
      ((value ++ continued (tok :: more)).splitOn ',').map String.ofList := by
  intro same
  have sizes := congrArg List.length same
  rw [splitOn_continued _ _ single,
    splitOn_continued _ _ fun piece mem => single piece (mem_cons_of_mem _ mem)] at sizes
  simp at sizes

end Spoiled

/-! ## When the authorization is the same -/

/-- The list a `subdomain` option sets. -/
def listed : OptionKey × List Char → Option (List Char)
  | (.subdomain, v) => if v = "*".toList then none else some v
  | _ => none

/-- The option in front of the token is one whose value makes no difference: a later option
of its kind replaces it, or it had no effect to begin with. A list of subdomains is only
replaced by another list; a star needs another star besides, and its list has to come out as
it was. -/
def harmless (earlier later : List (OptionKey × List Char)) (tok value : List Char) :
    OptionKey → Prop
  | .subdomain =>
    (value = "*".toList → (.subdomain, "*".toList) ∈ earlier ++ later) ∧
      ((∃ last ∈ later, (listed last).isSome = true) ∨
        value = "*".toList ∧ (earlier.filterMap listed).getLast? = some ('*' :: ',' :: tok))
  | .conns => (∃ last ∈ later, last.1 = .conns) ∨ parseUnsigned (2 ^ 32) value = none
  | .bw => (∃ last ∈ later, last.1 = .bw) ∨ parseRatePer value = none
  | .quota => (∃ last ∈ later, last.1 = .quota) ∨ parseRatePer value = none
  | .ports => (∃ last ∈ later, last.1 = .ports) ∨ parsePorts value = none
  | .federation => ∃ last ∈ later, last.1 = .federation

theorem authorizationEqual_iff (first second : AuthorizedEntry) :
    first.authorizationEqual second = true ↔
      Field.anySubdomain.get first = Field.anySubdomain.get second ∧
        Field.subdomains.get first = Field.subdomains.get second ∧
        Field.conns.get first = Field.conns.get second ∧
        Field.ports.get first = Field.ports.get second ∧
        Field.bw.get first = Field.bw.get second ∧
        Field.quota.get first = Field.quota.get second ∧
        Field.federation.get first = Field.federation.get second := by
  simp only [AuthorizedEntry.authorizationEqual, Bool.and_eq_true, beq_iff_eq, and_assoc]
  rfl

theorem anySubdomain_sets (pair : OptionKey × List Char) : Field.anySubdomain.sets pair =
      if pair = (.subdomain, "*".toList) then some true else none := by
  obtain ⟨key, v⟩ := pair
  cases key <;> simp [Field.anySubdomain]

theorem anySubdomain_foldl (pairs : List (OptionKey × List Char)) :
    Field.anySubdomain.get (pairs.foldl applyOption .default) = true ↔
      (.subdomain, "*".toList) ∈ pairs := by
  rw [Field.get_foldl]
  cases deciding : (pairs.filterMap Field.anySubdomain.sets).getLast? with
  | none =>
    refine iff_of_false (by simp [Field.anySubdomain, AuthorizedEntry.default]) fun mem => ?_
    have present := mem_filterMap.mpr ⟨_, mem, (anySubdomain_sets _).trans (if_pos rfl)⟩
    rw [getLast?_eq_none_iff.mp deciding] at present
    cases present
  | some value =>
    obtain ⟨pair, mem, sets⟩ := mem_filterMap.mp (mem_of_getLast? deciding)
    rw [anySubdomain_sets] at sets
    split at sets
    · rename_i same
      cases sets
      exact iff_of_true rfl (same ▸ mem)
    · cases sets

theorem subdomains_sets (pair : OptionKey × List Char) :
    Field.subdomains.sets pair = (listed pair).map fun v => (v.splitOn ',').map String.ofList := by
  obtain ⟨key, v⟩ := pair
  cases key with
  | subdomain =>
    simp only [Field.subdomains, listed]
    split <;> rfl
  | conns | bw | quota | ports | federation => rfl

theorem splitOn_ofList_inj {first second : List Char}
    (same : (first.splitOn ',').map String.ofList = (second.splitOn ',').map String.ofList) :
    first = second := by
  have pieces : first.splitOn ',' = second.splitOn ',' :=
    map_injective_iff.mpr (fun _ _ => String.ofList_inj.mp) same
  calc first = [','].intercalate (first.splitOn ',') := (intercalate_splitOn ',').symm
    _ = [','].intercalate (second.splitOn ',') := by rw [pieces]
    _ = second := intercalate_splitOn ','

theorem subdomains_foldl (pairs : List (OptionKey × List Char)) (v : List Char) :
    Field.subdomains.get (pairs.foldl applyOption .default) = (v.splitOn ',').map String.ofList ↔
      (pairs.filterMap listed).getLast? = some v := by
  have lists : pairs.filterMap Field.subdomains.sets =
      (pairs.filterMap listed).map fun v => (v.splitOn ',').map String.ofList := by
    rw [map_filterMap]
    exact filterMap_congr fun pair _ => subdomains_sets pair
  rw [Field.get_foldl, lists, getLast?_map]
  cases (pairs.filterMap listed).getLast? with
  | none =>
    refine iff_of_false (fun same => ?_) (by simp)
    have empty : v.splitOn ',' = [] := map_eq_nil_iff.mp same.symm
    exact splitOn_ne_nil _ _ empty
  | some =>
    rw [map_some, getD_some, Option.some.injEq]
    exact ⟨splitOn_ofList_inj, fun same => same ▸ rfl⟩

section Replaced
variable {earlier later : List (OptionKey × List Char)} {value tok : List Char}
  {more : List (List Char)}

/-- The options a value is one of, before and after the token is part of it. -/
abbrev entryWith (earlier later : List (OptionKey × List Char)) (key : OptionKey)
    (value : List Char) : AuthorizedEntry :=
  (earlier ++ (key, value) :: later).foldl applyOption .default

theorem star_continued (star : value ++ continued more = "*".toList) :
    value ++ continued (tok :: more) = '*' :: ',' :: tok := by
  cases more with
  | cons piece rest =>
    have comma := comma_mem_continued value piece rest
    rw [star] at comma
    exact absurd comma (by decide)
  | nil =>
    have alone : value = "*".toList := by simpa [continued] using star
    rw [alone]
    simp [continued]

theorem continued_ne_star (value tok : List Char) (more : List (List Char)) :
    value ++ continued (tok :: more) ≠ "*".toList := by
  intro star
  have comma := comma_mem_continued value tok more
  rw [star] at comma
  exact absurd comma (by decide)

theorem anySubdomain_replaced (key : OptionKey) :
    Field.anySubdomain.get (entryWith earlier later key (value ++ continued more)) =
        Field.anySubdomain.get (entryWith earlier later key (value ++ continued (tok :: more))) ↔
      (key = .subdomain → value ++ continued more = "*".toList →
        (.subdomain, "*".toList) ∈ earlier ++ later) := by
  have starred : (∃ last ∈ later, (Field.anySubdomain.sets last).isSome = true) ↔
      (.subdomain, "*".toList) ∈ later := by
    simp only [anySubdomain_sets, isSome_ite, exists_eq_right]
  have after : (key, value ++ continued (tok :: more)) ≠ (.subdomain, "*".toList) :=
    fun same => continued_ne_star value tok more (congrArg Prod.snd same)
  rw [Field.get_foldl_eq_iff, starred, anySubdomain_sets, anySubdomain_sets, if_neg after,
    getD_none, mem_append, ← and_imp, ← Prod.mk.injEq]
  by_cases before : (key, value ++ continued more) = (.subdomain, "*".toList)
  · rw [if_pos before, getD_some, eq_comm, anySubdomain_foldl, forall_prop_of_true before, or_comm]
  · rw [if_neg before, getD_none]
    exact iff_of_true (.inr rfl) fun star => absurd star before

theorem subdomains_replaced (key : OptionKey) (single : ∀ piece ∈ tok :: more, ',' ∉ piece) :
    Field.subdomains.get (entryWith earlier later key (value ++ continued more)) =
        Field.subdomains.get (entryWith earlier later key (value ++ continued (tok :: more))) ↔
      (key = .subdomain → (∃ last ∈ later, (listed last).isSome = true) ∨
        value ++ continued more = "*".toList ∧
          (earlier.filterMap listed).getLast? = some ('*' :: ',' :: tok)) := by
  have notStar := continued_ne_star value tok more
  rw [Field.get_foldl_eq_iff]
  simp only [subdomains_sets, isSome_map]
  cases key with
  | subdomain =>
    rw [forall_prop_of_true rfl]
    refine or_congr_right ?_
    by_cases star : value ++ continued more = "*".toList
    · simp only [listed, if_pos star, if_neg notStar, map_none, map_some, getD_none, getD_some]
      rw [subdomains_foldl, star_continued star, and_iff_right star]
    · simp only [listed, if_neg star, if_neg notStar, map_some, getD_some]
      exact iff_of_false (splitOn_continued_ne single) fun both => star both.1
  | conns | bw | quota | ports | federation => simp [listed]

/-- A token with an unknown name, taken into the value of an option. -/
theorem entryWith_equal_iff (key : OptionKey) (single : ∀ piece ∈ tok :: more, ',' ∉ piece)
    (equals : '=' ∈ tok) :
    (entryWith earlier later key (value ++ continued more)).authorizationEqual
        (entryWith earlier later key (value ++ continued (tok :: more))) = true ↔
      harmless earlier later tok (value ++ continued more) key := by
  have comma := comma_mem_continued value tok more
  have number : parseUnsigned (2 ^ 32) (value ++ continued (tok :: more)) = none :=
    parseUnsigned_eq_none _ comma (by decide) (by decide)
  have rate : parseRatePer (value ++ continued (tok :: more)) = none := parseRatePer_comma comma
  have range : parsePorts (value ++ continued (tok :: more)) = none :=
    parsePorts_continued single equals
  have apexes : (Field.apexes (value ++ continued more)).map String.ofList ≠
      (Field.apexes (value ++ continued (tok :: more))).map String.ofList :=
    apexes_continued single equals
  have owned {β : Type} (field : Field β) (own : OptionKey) (read : List Char → β)
      (sets : ∀ pair, field.sets pair = if pair.1 = own then some (read pair.2) else none) :=
    field.get_foldl_eq_iff_of_owned own read sets earlier later key (value ++ continued more)
      (value ++ continued (tok :: more)) .default
  have conns := owned Field.conns .conns (fun v => (parseUnsigned (2 ^ 32) v).map UInt32.ofNat)
    fun _ => rfl
  have ports := owned Field.ports .ports parsePorts fun _ => rfl
  have bw := owned Field.bw .bw parseRatePer fun _ => rfl
  have quota := owned Field.quota .quota parseRatePer fun _ => rfl
  have federation := owned Field.federation .federation
    (fun v => (Field.apexes v).map String.ofList) fun _ => rfl
  rw [number, map_none, map_eq_none_iff] at conns
  rw [range] at ports
  rw [rate] at bw quota
  rw [authorizationEqual_iff, anySubdomain_replaced, subdomains_replaced key single, conns, ports,
    bw, quota, federation]
  cases key <;> simp [harmless, apexes]

end Replaced

/-! ## The token in the line -/

/-- A token `k=v` with an unknown name. -/
structure Unknown (tok : List Char) : Prop where
  solid : ∀ c ∈ tok, isWhitespace c = false ∧ c ≠ ',' ∧ c ≠ '#'
  named : ∃ k v, splitOnce '=' tok = some (k, v) ∧ OptionKey.ofText k = none

/-- White space, or one comma where a comma separates. -/
def Separates (comma : Prop) (gap : List Char) : Prop :=
  (gap ≠ [] ∧ ∀ c ∈ gap, isWhitespace c = true) ∨ (gap = [','] ∧ comma)

/-- What stands between the end of an option and the rest of the line: a separator if an
option follows, and otherwise only white space, if anything. -/
def Parts (comma : Prop) (gap rest : List Char) : Prop :=
  (bareLine rest = [] ∧ ∀ c ∈ gap, isWhitespace c = true) ∨
    (Separates comma gap ∧ ∃ c, rest.head? = some c ∧ isWhitespace c = false ∧ c ≠ '#')

/-- A line cut where a token can be put in: behind the key or an option, in front of an
option or the end of the list. Behind the key itself only white space separates. -/
structure Insertion where
  front : List Char
  gap : List Char
  rest : List Char
  left : List Char
  right : List Char
  plain : '#' ∉ front
  ends : ∃ c, front.getLast? = some c ∧ isWhitespace c = false
  keyed : 2 ≤ (splitWhitespace front).length
  parted : Parts (2 < (splitWhitespace front).length) gap rest
  before : Separates (2 < (splitWhitespace front).length) left
  after : Parts True right rest

namespace Insertion
variable (spot : Insertion) (tok : List Char)

def line : List Char := spot.front ++ (spot.gap ++ spot.rest)

def longer : List Char := spot.front ++ (spot.left ++ (tok ++ (spot.right ++ spot.rest)))

/-- The options in front of the token. -/
def passed : List (OptionKey × List Char) := optionPairs ((splitWhitespace spot.front).drop 2)

/-- The fragments behind it: first those that continue the option in front of it. -/
def coming : List (List Char) := fragments (splitWhitespace (bareLine spot.rest))

def continuing : List (List Char) := spot.coming.takeWhile fun piece => (recognised piece).isNone

/-- The options behind it. -/
def later : List (OptionKey × List Char) :=
  (spot.coming.dropWhile fun piece => (recognised piece).isNone).foldl addFragment []

/-- No option stands in front of the token, or one whose value makes no difference. -/
def Unaffected : Prop :=
  ∀ earlier key value, spot.passed = earlier ++ [(key, value)] →
    harmless earlier spot.later tok (value ++ continued spot.continuing) key

end Insertion

theorem Unknown.equals (unknown : Unknown tok) : '=' ∈ tok := by
  obtain ⟨k, v, split, -⟩ := unknown.named
  unfold splitOnce at split
  split at split
  · rename_i present
    exact contains_iff_mem.mp present
  · cases split

theorem Unknown.unrecognised (unknown : Unknown tok) : recognised tok = none := by
  obtain ⟨k, v, split, other⟩ := unknown.named
  simp [recognised, split, other]

theorem Unknown.fragments (unknown : Unknown tok) : fragments [tok] = [tok] := by
  have single : ',' ∉ tok := fun comma => (unknown.solid _ comma).2.1 rfl
  simp [Guarantees.fragments, splitOn_eq_singleton single]

section Cut
variable {front gap text : List Char}

theorem Separates.no_hash (separates : Separates comma gap) : '#' ∉ gap := by
  intro hash
  rcases separates with ⟨-, blank⟩ | ⟨rfl, -⟩
  · exact absurd (blank _ hash) (by decide)
  · simp at hash

/-- The words on the two sides of a separator, and their fragments. -/
theorem words_separated {first : Char} (ends : front.getLast? = some last)
    (endsSolid : isWhitespace last = false) (begins : text.head? = some first)
    (beginsSolid : isWhitespace first = false) (enough : n ≤ (splitWhitespace front).length)
    (separates : Separates (n < (splitWhitespace front).length) gap) :
    (splitWhitespace (front ++ (gap ++ text))).take n = (splitWhitespace front).take n ∧
      fragments ((splitWhitespace (front ++ (gap ++ text))).drop n) =
        fragments ((splitWhitespace front).drop n) ++ fragments (splitWhitespace text) := by
  rcases separates with ⟨some_, blank⟩ | ⟨rfl, behind⟩
  · rw [splitWhitespace_append_spaces_append _ _ _ blank some_, take_append_of_le_length enough,
      drop_append_of_le_length enough, fragments_append]
    exact ⟨rfl, rfl⟩
  · obtain ⟨words, left, right, back, before, after, joined⟩ :=
      splitWhitespace_glue ends endsSolid begins beginsSolid (show isWhitespace ',' = false by decide)
    rw [singleton_append, joined, after]
    rw [before] at behind ⊢
    have inside : n ≤ words.length := by
      rw [length_append, length_singleton] at behind
      omega
    rw [take_append_of_le_length inside, take_append_of_le_length inside,
      drop_append_of_le_length inside, drop_append_of_le_length inside]
    refine ⟨rfl, ?_⟩
    simp only [fragments_append, append_assoc]
    congr 1
    simp [Guarantees.fragments, splitOn_append_cons_self]

theorem Parts.mono {other : Prop} (weaker : comma → other) (parts : Parts comma gap rest) :
    Parts other gap rest :=
  parts.imp_right fun ⟨separates, begins⟩ =>
    ⟨separates.imp_right fun ⟨alone, behind⟩ => ⟨alone, weaker behind⟩, begins⟩

theorem splitWhitespace_bareLine (text : List Char) :
    splitWhitespace (bareLine text) = splitWhitespace (text.takeWhile (· != '#')) :=
  splitWhitespace_trim _

theorem unhashed {plain : List Char} (noHash : '#' ∉ plain) : ∀ c ∈ plain, (c != '#') = true := by
  intro c mem
  rw [bne_iff_ne]
  rintro rfl
  exact noHash mem

theorem takeWhile_plain_append {plain : List Char} (noHash : '#' ∉ plain) (rest : List Char) :
    (plain ++ rest).takeWhile (· != '#') = plain ++ rest.takeWhile (· != '#') :=
  takeWhile_append_of_pos (unhashed noHash)

theorem Parts.no_hash (parts : Parts comma gap rest) : '#' ∉ gap := by
  rcases parts with ⟨-, blank⟩ | ⟨separates, -⟩
  · exact fun hash => absurd (blank _ hash) (by decide)
  · exact separates.no_hash

theorem words_parted (ends : front.getLast? = some last) (endsSolid : isWhitespace last = false)
    (plain : '#' ∉ front) (enough : n ≤ (splitWhitespace front).length)
    (parts : Parts (n < (splitWhitespace front).length) gap rest) :
    (splitWhitespace (bareLine (front ++ (gap ++ rest)))).take n = (splitWhitespace front).take n ∧
      fragments ((splitWhitespace (bareLine (front ++ (gap ++ rest)))).drop n) =
        fragments ((splitWhitespace front).drop n) ++ fragments (splitWhitespace (bareLine rest)) := by
  have bare : splitWhitespace (bareLine (front ++ (gap ++ rest))) =
      splitWhitespace (front ++ (gap ++ rest.takeWhile (· != '#'))) := by
    rw [splitWhitespace_bareLine, takeWhile_plain_append plain, takeWhile_plain_append parts.no_hash]
  rw [bare]
  rcases parts with ⟨over_, blank⟩ | ⟨separates, c, begins, solid, notHash⟩
  · -- nothing but white space is left of the list
    have rest_ : ∀ x ∈ gap ++ rest.takeWhile (· != '#'), isWhitespace x = true := by
      intro x mem
      rcases mem_append.mp mem with inGap | inRest
      · exact blank x inGap
      · exact (trim_eq_nil_iff _).mp over_ x inRest
    rw [splitWhitespace_append_spaces _ _ rest_, over_]
    exact ⟨rfl, (append_nil _).symm⟩
  · rw [splitWhitespace_bareLine]
    refine words_separated ends endsSolid ?_ solid enough separates
    obtain ⟨others, rfl⟩ := head?_eq_some_iff.mp begins
    rw [takeWhile_cons_of_pos (by simpa using notHash)]
    rfl

end Cut

namespace Insertion
variable (spot : Insertion) {tok : List Char}

theorem line_words :
    (splitWhitespace (bareLine spot.line)).take 2 = (splitWhitespace spot.front).take 2 ∧
      fragments ((splitWhitespace (bareLine spot.line)).drop 2) =
        fragments ((splitWhitespace spot.front).drop 2) ++ spot.coming := by
  obtain ⟨last, ends, solid⟩ := spot.ends
  exact words_parted ends solid spot.plain spot.keyed spot.parted

theorem longer_words (unknown : Unknown tok) :
    (splitWhitespace (bareLine (spot.longer tok))).take 2 = (splitWhitespace spot.front).take 2 ∧
      fragments ((splitWhitespace (bareLine (spot.longer tok))).drop 2) =
        fragments ((splitWhitespace spot.front).drop 2) ++ tok :: spot.coming := by
  obtain ⟨last, ends, solid⟩ := spot.ends
  have nonempty : tok ≠ [] := ne_nil_of_mem unknown.equals
  have noHash : '#' ∉ tok := fun hash => (unknown.solid _ hash).2.2 rfl
  have tokSolid : ∀ c ∈ tok, isWhitespace c = false := fun c mem => (unknown.solid c mem).1
  have word : splitWhitespace tok = [tok] := splitWhitespace_word tokSolid nonempty
  have begins : tok.head? = some (tok.head nonempty) := head?_eq_some_head nonempty
  have lasts : tok.getLast? = some (tok.getLast nonempty) := getLast?_eq_some_getLast nonempty
  -- the token and what follows it, then the whole behind the options in front
  have tail := words_parted (n := 0) lasts (tokSolid _ (getLast_mem nonempty)) noHash
    (Nat.zero_le _) (spot.after.mono fun _ => by rw [word]; exact Nat.one_pos)
  simp only [drop_zero, word, unknown.fragments, singleton_append] at tail
  have bare : splitWhitespace (bareLine (spot.longer tok)) = splitWhitespace
      (spot.front ++ (spot.left ++ (tok ++ (spot.right ++ spot.rest.takeWhile (· != '#'))))) := by
    rw [splitWhitespace_bareLine, longer, takeWhile_plain_append spot.plain, takeWhile_plain_append
      spot.before.no_hash, takeWhile_plain_append noHash, takeWhile_plain_append spot.after.no_hash]
  have behind : splitWhitespace (bareLine (tok ++ (spot.right ++ spot.rest))) =
      splitWhitespace (tok ++ (spot.right ++ spot.rest.takeWhile (· != '#'))) := by
    rw [splitWhitespace_bareLine, takeWhile_plain_append noHash,
      takeWhile_plain_append spot.after.no_hash]
  have first : (tok ++ (spot.right ++ spot.rest.takeWhile (· != '#'))).head? =
      some (tok.head nonempty) := by
    rw [head?_append, begins]
    rfl
  have whole := words_separated ends solid first (tokSolid _ (head_mem nonempty)) spot.keyed
    spot.before
  rw [bare]
  refine ⟨whole.1, whole.2.trans ?_⟩
  rw [← behind, tail.2]
  rfl

theorem foldl_coming_concat (earlier : List (OptionKey × List Char)) (key : OptionKey)
    (value : List Char) : spot.coming.foldl addFragment (earlier ++ [(key, value)]) =
      earlier ++ (key, value ++ continued spot.continuing) :: spot.later := by
  have unknown : ∀ piece ∈ spot.continuing, recognised piece = none :=
    fun piece mem => by simpa using mem_takeWhile_imp mem
  have known : ∀ piece, (spot.coming.dropWhile fun piece => (recognised piece).isNone).head? =
      some piece → (recognised piece).isSome = true := by
    intro piece first
    have stopped := head?_dropWhile_not (fun piece => (recognised piece).isNone) spot.coming
    rw [first] at stopped
    simpa [← isSome_iff_ne_none] using stopped
  conv_lhs => rw [← takeWhile_append_dropWhile (p := fun piece => (recognised piece).isNone)
    (l := spot.coming)]
  rw [foldl_append, show spot.coming.takeWhile _ = spot.continuing from rfl,
    foldl_addFragment_concat unknown, foldl_addFragment_known known, append_assoc]
  rfl

/-- The authorization of the line before and after, from the options in front of the token. -/
theorem options_equal_iff (unknown : Unknown tok) :
    ((spot.coming.foldl addFragment spot.passed).foldl applyOption .default).authorizationEqual
        (((tok :: spot.coming).foldl addFragment spot.passed).foldl applyOption .default) = true ↔
      spot.Unaffected tok := by
  have single : ∀ piece ∈ tok :: spot.continuing, ',' ∉ piece := by
    intro piece mem
    rcases mem_cons.mp mem with rfl | later
    · exact fun comma => (unknown.solid _ comma).2.1 rfl
    · obtain ⟨word, -, inside⟩ := mem_flatMap.mp ((takeWhile_subset _) later)
      exact mem_splitOn_not_mem ',' word piece inside
  rw [foldl_cons]
  unfold Unaffected
  rcases eq_nil_or_concat spot.passed with none_ | ⟨earlier, ⟨key, value⟩, passed⟩
  · rw [none_, addFragment_nil unknown.unrecognised]
    refine iff_of_true (authorizationEqual_refl _) fun earlier key value whole => ?_
    simp at whole
  · rw [concat_eq_append] at passed
    rw [passed, addFragment_concat unknown.unrecognised, foldl_coming_concat, foldl_coming_concat]
    have joined : (value ++ ',' :: tok) ++ continued spot.continuing =
        value ++ continued (tok :: spot.continuing) := by
      simp [continued]
    rw [joined]
    refine (entryWith_equal_iff key single unknown.equals).trans ?_
    constructor
    · intro fine earlier' key' value' whole
      obtain ⟨rfl, same⟩ := append_inj' whole rfl
      cases same
      exact fine
    · exact fun fine => fine earlier key value rfl

end Insertion

/-- The key of a line from its first two words, and the entry from the others. -/
theorem parseLine_eq (decode : List Char → Option (List UInt8)) {line algo b64 : List Char}
    {options : List (List Char)} (words : splitWhitespace (bareLine line) = algo :: b64 :: options) :
    parseLine decode line =
      ((if algo ≠ "ed25519".toList then none else decode b64).bind PubKey.ofBytes).map fun pubkey =>
        (pubkey, { (optionPairs options).foldl applyOption .default with
          comment := lineComment line }) := by
  unfold parseLine
  rw [words]
  by_cases other : algo ≠ "ed25519".toList
  · simp only [if_pos other]
    rfl
  · simp only [if_neg other]
    cases decode b64 with
    | none => rfl
    | some raw =>
      simp only [bind_eq_bind, bind_some]
      cases PubKey.ofBytes raw <;> rfl

/-- A token with an unknown name leaves key and authorization of an accepted line as they
were exactly if no option stands in front of it, or one whose value makes no difference. -/
theorem unknown_option_ignored_iff (decode : List Char → Option (List UInt8)) (spot : Insertion)
    (tok : List Char) (unknown : Unknown tok) (pubkey : PubKey) (entry : AuthorizedEntry)
    (accepted : parseLine decode spot.line = some (pubkey, entry)) :
    (∃ longer, parseLine decode (spot.longer tok) = some (pubkey, longer) ∧
        entry.authorizationEqual longer = true) ↔
      spot.Unaffected tok := by
  obtain ⟨algo, b64, options, front⟩ : ∃ algo b64 options,
      splitWhitespace spot.front = algo :: b64 :: options := by
    have keyed := spot.keyed
    match words : splitWhitespace spot.front with
    | [] | [_] => simp [words] at keyed
    | algo :: b64 :: options => exact ⟨algo, b64, options, rfl⟩
  have lead : ∀ words : List (List Char), words.take 2 = (splitWhitespace spot.front).take 2 →
      words = algo :: b64 :: words.drop 2 := by
    intro words same
    rw [← take_append_drop 2 words, same, front]
    rfl
  obtain ⟨lineTake, lineDrop⟩ := spot.line_words
  obtain ⟨longerTake, longerDrop⟩ := spot.longer_words unknown
  have passed : (fragments ((splitWhitespace spot.front).drop 2)).foldl addFragment [] =
      spot.passed := (optionPairs_eq _).symm
  rw [parseLine_eq decode (lead _ lineTake), optionPairs_eq, lineDrop, foldl_append,
    passed] at accepted
  rw [parseLine_eq decode (lead _ longerTake), optionPairs_eq, longerDrop, foldl_append, passed,
    ← spot.options_equal_iff unknown]
  obtain ⟨key, keyed, same⟩ := map_eq_some_iff.mp accepted
  cases same
  rw [keyed, map_some]
  constructor
  · rintro ⟨longer, same, equal⟩
    cases same
    exact equal
  · exact fun equal => ⟨_, rfl, equal⟩

/-- `ed25519 <key> conns=5`, with room for a token behind the key. -/
def beforeConns : Insertion where
  front := "ed25519 ".toList ++ (standardBase64.base64 frank).toList
  gap := [' ']
  rest := "conns=5".toList
  left := [' ']
  right := [',']
  plain := by decide +kernel
  ends := ⟨'=', by decide +kernel, by decide⟩
  keyed := by decide +kernel
  parted := .inr ⟨.inl ⟨by decide, forall_mem_singleton.mpr rfl⟩, 'c', by decide, by decide,
    by decide⟩
  before := .inl ⟨by decide, forall_mem_singleton.mpr rfl⟩
  after := .inr ⟨.inr ⟨rfl, trivial⟩, 'c', by decide, by decide, by decide⟩

/-- The same line, with room for a token at its end. -/
def afterConns : Insertion where
  front := "ed25519 ".toList ++ (standardBase64.base64 frank).toList ++ " conns=5".toList
  gap := []
  rest := []
  left := [' ']
  right := []
  plain := by decide +kernel
  ends := ⟨'5', by decide +kernel, by decide⟩
  keyed := by decide +kernel
  parted := .inl ⟨rfl, forall_mem_nil _⟩
  before := .inl ⟨by decide, forall_mem_singleton.mpr rfl⟩
  after := .inl ⟨rfl, forall_mem_nil _⟩

theorem unknown_note : Unknown "note=x".toList where
  solid := by simp [isWhitespace]
  named := ⟨"note".toList, "x".toList, by decide, by decide⟩

theorem unknown_option_ignored_iff_first :
    ∃ entry longer, parseLine Base64.decode beforeConns.line = some (frank, entry) ∧
      parseLine Base64.decode (beforeConns.longer "note=x".toList) = some (frank, longer) ∧
      entry.authorizationEqual longer = true := by
  obtain ⟨entry, accepted⟩ : ∃ entry,
      parseLine Base64.decode beforeConns.line = some (frank, entry) := by
    have parsed : (parseLine Base64.decode beforeConns.line).map Prod.fst = some frank := by
      decide +kernel
    obtain ⟨⟨pubkey, entry⟩, accepted, rfl⟩ := map_eq_some_iff.mp parsed
    exact ⟨entry, accepted⟩
  have alone : beforeConns.Unaffected "note=x".toList := by
    have none_ : beforeConns.passed = [] := by decide +kernel
    intro earlier key value whole
    rw [none_] at whole
    simp at whole
  obtain ⟨longer, parsed, equal⟩ := (unknown_option_ignored_iff Base64.decode beforeConns
    "note=x".toList unknown_note frank entry accepted).mpr alone
  exact ⟨entry, longer, accepted, parsed, equal⟩

/-- Behind `conns=5` the token makes the number unreadable, and the cap is gone. -/
theorem unknown_option_lifts_cap :
    (parseLine Base64.decode afterConns.line).map (fun parsed => (parsed.1, parsed.2.maxConns)) =
        some (frank, some 5) ∧
      (parseLine Base64.decode (afterConns.longer "note=x".toList)).map
        (fun parsed => (parsed.1, parsed.2.maxConns)) = some (frank, none) := by
  decide +kernel

end KrotRelay.Guarantees

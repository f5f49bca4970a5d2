import Mathlib.Data.List.Nodup
import Mathlib.Data.List.Perm.Basic
import Mathlib.Data.List.Range
import Mathlib.Data.Option.Basic

/-!
A log of operations in the order they took effect. Operations are numbered in the order
they were issued; each takes effect at most once. Once all of them have, the log is a
permutation of what was issued: a sequential order of the operations.
-/
namespace KrotRelay.Lib
open List

variable {Op : Type*}

/-- Every record is one of the issued operations under its own number, none twice. -/
structure CommitLog (issued : List Op) (log : List (Nat × Op)) : Prop where
  once : (log.map Prod.fst).Nodup
  recorded : ∀ record ∈ log, issued[record.1]? = some record.2

namespace CommitLog
variable {issued : List Op} {log : List (Nat × Op)}

theorem nil : CommitLog issued [] :=
  ⟨nodup_nil, fun _ mem => absurd mem not_mem_nil⟩

/-- Issuing one more operation leaves the log as it is. -/
theorem issue (commits : CommitLog issued log) (op : Op) : CommitLog (issued ++ [op]) log where
  once := commits.once
  recorded record member := by
    have found := commits.recorded record member
    rwa [getElem?_append_left (List.getElem?_eq_some_iff.mp found).1]

theorem commit (commits : CommitLog issued log) {id : Nat} {op : Op}
    (found : issued[id]? = some op) (fresh : id ∉ log.map Prod.fst) :
    CommitLog issued (log ++ [(id, op)]) where
  once := by
    rw [map_append, nodup_append]
    refine ⟨commits.once, nodup_singleton _, ?_⟩
    rintro first member _ (_ | ⟨_, ⟨⟩⟩) rfl
    exact fresh member
  recorded record member := by
    rcases mem_append.mp member with member | member
    · exact commits.recorded record member
    · cases mem_singleton.mp member
      exact found

/-- When everything has taken effect the log is an order of all the operations. -/
theorem perm (commits : CommitLog issued log)
    (complete : ∀ id < issued.length, id ∈ log.map Prod.fst) : (log.map Prod.snd).Perm issued := by
  have ids : (log.map Prod.fst).Perm (List.range issued.length) := by
    refine (perm_ext_iff_of_nodup commits.once nodup_range).mpr fun id => ?_
    rw [mem_range]
    constructor
    · intro mem
      obtain ⟨record, listed, rfl⟩ := mem_map.mp mem
      exact (List.getElem?_eq_some_iff.mp (commits.recorded record listed)).1
    · exact complete id
  have ops : (log.map Prod.fst).map (issued[·]?) = (log.map Prod.snd).map some := by
    rw [map_map, map_map]
    exact map_congr_left fun record mem => commits.recorded record mem
  have whole : (List.range issued.length).map (issued[·]?) = issued.map some := by
    apply ext_getElem
    · simp
    · intro position _ _
      simp
  have moved := ids.map (issued[·]?)
  rw [ops, whole] at moved
  exact (map_perm_map_iff (Option.some_injective Op)).mp moved

end CommitLog
end KrotRelay.Lib

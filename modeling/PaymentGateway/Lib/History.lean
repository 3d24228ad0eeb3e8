/-
# Histories of keyed versions

A store that keeps every version of its items, newest first. The latest version
of an item is the first one with its key. If each version is related to the one it
replaced by a preorder, then every version is related to the latest one of its
item.
-/

import Mathlib.Data.List.Pairwise

namespace PaymentGateway.Lib

variable {V K : Type} [DecidableEq K] {key : V → K} {R : V → V → Prop} {history : List V}
  {version : V}

/-- The latest version with a key. -/
def latest (key : V → K) (history : List V) (k : K) : Option V :=
  history.find? fun version => key version = k

/-- Each version is related to every later version with its key. -/
def Linked (key : V → K) (R : V → V → Prop) (history : List V) : Prop :=
  history.Pairwise fun newer older => key newer = key older → R older newer

theorem latest_cons_self (key : V → K) (version : V) (history : List V) :
    latest key (version :: history) (key version) = some version := by
  simp [latest]

theorem latest_cons_of_ne (key : V → K) {version : V} (history : List V) {k : K}
    (h : k ≠ key version) : latest key (version :: history) k = latest key history k := by
  simp [latest, Ne.symm h]

theorem mem_of_latest {k : K} (h : latest key history k = some version) : version ∈ history :=
  List.mem_of_find?_eq_some h

theorem key_of_latest {k : K} (h : latest key history k = some version) : key version = k := by
  simpa using List.find?_some h

omit [DecidableEq K] in
theorem Linked.nil : Linked key R [] := List.Pairwise.nil

/-- Every version leads to the latest one of its item. -/
theorem Linked.related_latest (refl : ∀ v, R v v) (linked : Linked key R history)
    (hmem : version ∈ history) : ∃ last, latest key history (key version) = some last ∧
      R version last := by
  induction history with
  | nil => cases hmem
  | cons newest history ih =>
    obtain ⟨hnewest, hrest⟩ := List.pairwise_cons.mp linked
    by_cases hkey : key version = key newest
    · refine ⟨newest, by rw [hkey, latest_cons_self], ?_⟩
      rcases List.mem_cons.mp hmem with rfl | hmem
      · exact refl version
      · exact hnewest version hmem hkey.symm
    · rw [latest_cons_of_ne key history hkey]
      refine ih hrest ((List.mem_cons.mp hmem).resolve_left ?_)
      rintro rfl
      exact hkey rfl

/-- A new version need only be related to the one it replaces. -/
theorem Linked.cons (refl : ∀ v, R v v) (trans : ∀ {u v w}, R u v → R v w → R u w)
    (linked : Linked key R history)
    (h : ∀ replaced, latest key history (key version) = some replaced → R replaced version) :
    Linked key R (version :: history) := by
  refine List.pairwise_cons.mpr ⟨fun older holder hkey => ?_, linked⟩
  obtain ⟨last, hlast, hrel⟩ := linked.related_latest refl holder
  exact trans hrel (h last (hkey ▸ hlast))

omit [DecidableEq K] in
/-- Of two versions of an item one is related to the other. -/
theorem Linked.related_or_related (refl : ∀ v, R v v) (linked : Linked key R history) {v w : V}
    (hv : v ∈ history) (hw : w ∈ history) (hkey : key v = key w) : R v w ∨ R w v := by
  have : Std.Symm fun a b => key a = key b → R a b ∨ R b a :=
    ⟨fun _ _ h hba => (h hba.symm).symm⟩
  have hpairs : history.Pairwise fun a b => key a = key b → R a b ∨ R b a :=
    linked.imp fun h hab => .inr (h hab)
  exact hpairs.forall_of_forall (fun v _ _ => .inl (refl v)) hv hw hkey

end PaymentGateway.Lib

import Fixtures.Proofs.Domain.Merging

namespace Fixtures

def BeginsWithWord (text : String) : Prop :=
  ∃ c rest, text.toList = c :: rest ∧ c.isDigit = false

theorem beginsWithWord_append {a : String} (h : BeginsWithWord a) (b : String) :
    BeginsWithWord (a ++ b) := by
  obtain ⟨c, rest, hlist, hdigit⟩ := h
  exact ⟨c, rest ++ b.toList, by rw [String.toList_append, hlist, List.cons_append], hdigit⟩

theorem not_beginsWithWord_of_number (n : Nat) (b : String) :
    ¬ BeginsWithWord (toString n ++ b) := by
  rintro ⟨c, rest, hlist, hdigit⟩
  have hnumber : (toString n ++ b).toList = Nat.toDigits 10 n ++ b.toList := by
    rw [String.toList_append, Nat.toString_eq_repr, Nat.toList_repr]
  cases hdigits : Nat.toDigits 10 n with
  | nil => exact Nat.toDigits_ne_nil hdigits
  | cons d ds =>
    rw [hnumber, hdigits, List.cons_append, List.cons.injEq] at hlist
    have := Nat.isDigit_of_mem_toDigits (n := n) (c := d) (by decide) (by decide)
      (hdigits ▸ List.mem_cons_self)
    rw [hlist.1, hdigit] at this
    cases this

theorem Constraint.label_beginsWithWord (c : Constraint) : BeginsWithWord c.label := by
  cases c <;> unfold Constraint.label <;> simp only [String.append_assoc] <;>
    exact beginsWithWord_append ⟨_, _, rfl, by decide⟩ _

namespace Domain

structure IsLabelled (d : Domain) : Prop where
  element : ∀ check ∈ d.elementChecks, ∃ c : Constraint, check.label = c.label
  length : ∀ check ∈ d.lengthChecks, ∃ c : Constraint, check.label = c.label

theorem isLabelled_of_part {t : Terminal} {c : Constraint} {added : Draft}
    (h : part t c = .ok added) :
    added.domain.IsLabelled := by
  have hnone : ∀ check ∈ ([] : List ValueCheck), ∃ c : Constraint, check.label = c.label := by simp
  have hone : ∀ one : ValueCheck, one.label = c.label →
      ∀ check ∈ [one], ∃ c : Constraint, check.label = c.label := by
    intro one hlabel check hcheck
    rw [List.mem_singleton.mp hcheck]
    exact ⟨c, hlabel⟩
  cases adds_of_part h with
  | nothing => exact ⟨hnone, hnone⟩
  | length => exact ⟨hnone, hone _ rfl⟩
  | _ => exact ⟨hone _ rfl, hnone⟩

theorem isLabelled_of_build {t : Terminal} {constraints : List Constraint} {d : Domain}
    (h : build t constraints = .ok d) : d.IsLabelled := by
  obtain ⟨parts, hparts, hbuilt⟩ := built_of_build h
  have hlabelled : ∀ added ∈ parts, added.domain.IsLabelled := by
    intro added hadded
    obtain ⟨c, -, hpart⟩ := exists_of_mem_mapM hparts hadded
    exact isLabelled_of_part hpart
  obtain ⟨helement, hlength⟩ := hbuilt.checks
  constructor
  · intro check hcheck
    rw [helement] at hcheck
    obtain ⟨added, hadded, hcheck⟩ := List.mem_flatMap.mp hcheck
    exact (hlabelled added hadded).element check hcheck
  · intro check hcheck
    rw [hlength] at hcheck
    obtain ⟨added, hadded, hcheck⟩ := List.mem_flatMap.mp hcheck
    exact (hlabelled added hadded).length check hcheck

variable {d : Domain} {v : Value} {text : String}

theorem beginsWithWord_of_firstRefusal? {checks : List ValueCheck}
    (hchecks : ∀ check ∈ checks, ∃ c : Constraint, check.label = c.label)
    (h : firstRefusal? checks v = some text) : BeginsWithWord text := by
  obtain ⟨check, hcheck, rfl⟩ := Option.map_eq_some_iff.mp h
  obtain ⟨c, hc⟩ := hchecks check (List.mem_of_find?_eq_some hcheck)
  rw [hc]
  exact c.label_beginsWithWord

theorem eq_some_of_orElse {a b : Option String} (h : (a <|> b) = some text) :
    a = some text ∨ b = some text := by
  cases a with
  | none => exact .inr h
  | some _ => exact .inl h

theorem IsLabelled.beginsWithWord_of_refusal? (hd : d.IsLabelled) (h : d.refusal? v = some text) :
    BeginsWithWord text := by
  have hlength : ∀ v, d.lengthRefusal? v = some text → BeginsWithWord text :=
    fun _ => beginsWithWord_of_firstRefusal? hd.length
  have helement : ∀ v, d.elementRefusal? v = some text → BeginsWithWord text :=
    fun _ => beginsWithWord_of_firstRefusal? hd.element
  have hfixed : ∀ count, d.fixedLengthRefusal? count = some text → BeginsWithWord text := by
    intro count hcount
    unfold fixedLengthRefusal? at hcount
    split at hcount
    · split at hcount <;> cases hcount
      exact beginsWithWord_append ⟨_, _, rfl, by decide⟩ _
    · cases hcount
  unfold refusal? at h
  split at h
  · cases h
  · rcases eq_some_of_orElse h with h | h
    · exact hfixed _ h
    · rcases eq_some_of_orElse h with h | h
      · exact hlength _ h
      · obtain ⟨item, -, hitem⟩ := List.exists_of_findSome?_eq_some h
        exact helement item hitem
  · cases h
    exact beginsWithWord_append ⟨_, _, rfl, by decide⟩ _
  · rcases eq_some_of_orElse h with h | h
    · exact hlength _ h
    · exact helement _ h

end Domain

end Fixtures

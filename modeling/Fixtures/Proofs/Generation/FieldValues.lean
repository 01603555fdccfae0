import Fixtures.Generation.Value
import Fixtures.Proofs.Model.Field
import Fixtures.Proofs.Random.Draw

namespace Fixtures.Generation

open Fixtures.Random

variable {p : Primitive} {d : Domain}

theorem gives_lift {α : Type} {x : Except Fault α} {q : α → Prop} (h : ∀ a, x = .ok a → q a) :
    Gives (liftM x) q := by
  intro s a t ha
  cases x with
  | error e => cases ha
  | ok b =>
    cases ha
    exact h a rfl

theorem times_gives {α : Type} {draw : Draw α} {q : α → Prop} (count : Nat) (h : Gives draw q) :
    Gives (times count draw) fun as => as.length = count ∧ ∀ a ∈ as, q a :=
  (gives_mapM fun _ => h).mono fun _ has => ⟨has.1.trans List.length_range, has.2⟩

theorem gives_randomScalar (p : Primitive) (d : Domain) (length : Bounds Nat) (base : Date) :
    Gives (randomScalar p d length base) fun v => v.kind? = some p := by
  cases p with
  | string | binary =>
    refine (gives_true _).bind fun n _ => ?_
    exact (gives_true _).bind fun a _ => gives_pure rfl
  | integer | decimal | boolean | date | timestamp | uuid | json =>
    exact (gives_true _).bind fun a _ => gives_pure rfl

theorem kind?_of_sequentialValue {b : Bounds Float} {field : String} {n : Int} {base : Date}
    {v : Value} (h : sequentialValue p b field n base = .ok v) : v.kind? = some p := by
  cases p with
  | date | timestamp =>
    simp only [sequentialValue, bind_eq_ok] at h
    obtain ⟨seconds, _, heq⟩ := h
    cases heq
    rfl
  | integer | decimal | string | boolean | uuid | binary | json =>
    cases h
    rfl

theorem kind?_of_keyedValue? {topic : Faker.Topic} {field : String} {ordinal : Nat} {base : Date}
    {v : Value} (h : keyedValue? p d topic field ordinal base = some v) : v.kind? = some p := by
  have hcounted := (Option.filter_eq_some_iff.mp h).1
  cases p with
  | integer | date | timestamp =>
    obtain ⟨a, _, rfl⟩ := Option.map_eq_some_iff.mp hcounted
    rfl
  | decimal | string =>
    cases hcounted
    rfl
  | boolean | uuid | binary | json => cases hcounted

theorem gives_draw_of_eq (n : Nat) : Gives (LengthRange.draw ⟨n, n⟩) fun count => count = n := by
  simp only [LengthRange.draw, Nat.le_refl, if_true]
  exact gives_pure rfl

theorem gives_array {draw : Draw Value} {fixed : Option Nat} (count : Nat)
    (h : Gives draw fun v => v.kind? = some p) (hcount : ∀ n, fixed = some n → count = n) :
    Gives (do
      reserve count Batch.slotBytes
      return Value.array (← times count draw)) fun v => v.HasType (.array p fixed) :=
  (gives_true _).bind fun _ _ => (times_gives count h).bind fun items hitems =>
    gives_pure ⟨items, rfl, hitems.2, fun n hn => hitems.1.trans (hcount n hn)⟩

namespace ValueRequest

variable {q : ValueRequest}

theorem gives_allowedValue {values : List Value} (h : values ≠ []) (synthetic : Bool) :
    Gives (q.allowedValue synthetic values) fun v => v ∈ values := by
  unfold allowedValue
  split
  · refine gives_pure ?_
    have hlt := Nat.mod_lt q.row (List.length_pos_iff.mpr h)
    rw [List.getD_eq_getElem?_getD, List.getElem?_eq_getElem hlt]
    exact List.getElem_mem hlt
  · exact gives_choose h

theorem gives_strategyValue (p : Primitive) (length : Bounds Nat) (synthetic : Bool) :
    Gives (q.strategyValue p length synthetic) fun v => v.kind? = some p := by
  have hrandom := gives_randomScalar p q.field.domain length q.baseDate
  unfold strategyValue
  simp only
  split
  · exact hrandom
  · split
    · split
      · next hp => exact (gives_true _).bind fun s _ => gives_pure (by rw [hp]; rfl)
      · exact hrandom
    · exact gives_lift fun v hv => kind?_of_sequentialValue hv
    · exact hrandom

theorem gives_element {t : Terminal} (h : q.field.domain.IsOf t) (length : Bounds Nat)
    (synthetic : Bool) :
    Gives (q.element t.element length synthetic) fun v => v.kind? = some t.element := by
  unfold element
  split
  · next v vs hallowed =>
    exact (gives_allowedValue (List.cons_ne_nil v vs) synthetic).mono (h.allowed _ hallowed)
  · split
    · next hp => exact (gives_true _).bind fun s _ => gives_pure (by rw [hp]; rfl)
    · exact gives_strategyValue _ _ _
  · exact gives_strategyValue _ _ _

theorem gives_typedValue {t : Terminal} (h : q.field.domain.IsOf t) (synthetic : Bool) :
    Gives (q.typedValue synthetic) fun v => v.HasType t := by
  unfold typedValue
  simp only [h.terminal]
  cases t with
  | primitive p => exact gives_element h _ _
  | array item fixed =>
    cases fixed with
    | none =>
      exact (gives_true _).bind fun count _ =>
        gives_array count (gives_element h .unbounded synthetic) fun n hn => by cases hn
    | some n =>
      refine (gives_draw_of_eq n).bind fun count hcount => ?_
      exact gives_array count (gives_element h .unbounded synthetic) fun m hm =>
        hcount.trans (Option.some.inj hm)

theorem hasType_of_derivedValue? {v : Value} (hq : q.field.WellTyped)
    (h : q.derivedValue? = some v) : v.HasType q.field.terminal := by
  unfold derivedValue? at h
  split at h
  · next p _ hterminal =>
    rw [← hq.domain.terminal, hterminal]
    exact kind?_of_keyedValue? h
  · cases h

theorem hasType_of_defaultValue? {v : Value} (hq : q.field.WellTyped)
    (h : q.defaultValue? = some v) : v.HasType q.field.terminal := by
  unfold defaultValue? at h
  split at h
  · exact hq.default v h
  · cases h

theorem gives_candidate (hq : q.field.WellTyped) (synthetic : Bool) :
    Gives (q.candidate synthetic) fun v => v.HasType q.field.terminal := by
  unfold candidate
  split
  · next v hv =>
    split at hv
    · exact gives_pure (hasType_of_derivedValue? hq hv)
    · cases hv
  · split
    · next v hv => exact gives_pure (hasType_of_defaultValue? hq hv)
    · exact gives_typedValue hq.domain _

theorem gives_search (hq : q.field.WellTyped) (synthetic attempts : Nat) (last : String) :
    Gives (q.search synthetic attempts last) fun result =>
      ∀ v, result = .ok v → q.field.Fits v := by
  induction attempts generalizing synthetic last with
  | zero => exact gives_pure fun v h => by cases h
  | succ attempts ih =>
    refine (gives_candidate hq _).bind fun v hv => ?_
    split
    · next hnone =>
      refine gives_pure fun w hw => ?_
      cases hw
      exact ⟨hv, hnone⟩
    · exact ih _ _

theorem gives_value (hq : q.field.WellTyped) (attempts : Nat) :
    Gives (q.value attempts) fun result => ∀ v, result = .ok v → q.field.Fits v :=
  gives_search hq _ _ _

end ValueRequest

end Fixtures.Generation

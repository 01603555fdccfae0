import Fixtures.Proofs.Contract.Meeting
import Fixtures.Proofs.Json.Ordered
import Fixtures.Proofs.Outcome
import Fixtures.Proofs.Positions

namespace Fixtures.Contract

open Json

variable {α : Type} {c : Contract} {decode : Json → Option α} {encode : α → Json} {name : String}

structure Describes (c : Contract) (decode : Json → Option α) (encode : α → Json) : Prop where
  accepts : ∀ j, c.meets NumberFormat.bySign j = true →
    ((decode j).isSome = true ↔ c.meets NumberFormat.bySize j = true)
  returns : ∀ j a, j.isValue = true → c.meets NumberFormat.bySign j = true → decode j = some a →
    c.meets NumberFormat.bySign (encode a).inOrder = true ∧ decode (encode a).inOrder = some a ∧
      (j ≠ .null → (encode a).inOrder ≠ .null)

theorem describes_string : Describes .string string? .string := by
  refine ⟨fun j h => ?_, fun j a _ _ ha => ?_⟩
  · cases j <;> simp_all [meets, Kind.holds, string?]
  · exact ⟨rfl, rfl, by simp [inOrder]⟩

theorem describes_boolean : Describes .boolean bool? .bool := by
  refine ⟨fun j h => ?_, fun j a _ _ ha => ?_⟩
  · cases j <;> simp_all [meets, Kind.holds, bool?]
  · exact ⟨rfl, rfl, by simp [inOrder]⟩

structure IsNatural (format : NumberFormat) (bits : Nat) : Prop where
  unsigned : format.isUnsigned = true
  bySize : ∀ j, format.bySize j = (j.natWithin? bits).isSome

theorem isNatural_uint32 : IsNatural .uint32 32 := ⟨rfl, fun _ => rfl⟩

theorem isNatural_uint64 : IsNatural .uint64 64 := ⟨rfl, fun _ => rfl⟩

theorem natWithin?_eq_some {bits n : Nat} {j : Json} (h : j.natWithin? bits = some n) :
    n < twoTo bits ∧ j = .ofNat n := by
  cases j with
  | int i =>
    simp only [natWithin?, Option.ite_none_right_eq_some, Option.some.injEq] at h
    obtain ⟨⟨hnonneg, hlt⟩, rfl⟩ := h
    exact ⟨by omega, congrArg Json.int (Int.toNat_of_nonneg hnonneg).symm⟩
  | _ => cases h

theorem describes_natural {format : NumberFormat} {bits : Nat} (h : IsNatural format bits) :
    Describes (.integer format) (natWithin? bits) ofNat := by
  refine ⟨fun j hj => ?_, fun j n _ _ hn => ?_⟩
  · rw [meets, h.bySize]
    cases j <;> simp [Kind.holds, natWithin?]
  · obtain ⟨hlt, rfl⟩ := natWithin?_eq_some hn
    refine ⟨?_, hn, by simp [ofNat, inOrder]⟩
    simp [meets, ofNat, inOrder, Kind.holds, NumberFormat.bySign, isNegative]

theorem describes_word {all : List α} {text : α → String} (hall : ∀ a, a ∈ all)
    (hnodup : (all.map text).Nodup) :
    Describes (.word (all.map text)) (decodeName text all) (fun a => .string (text a)) := by
  have hfind := fun a => find?_of_mem_of_nodup hnodup (hall a)
  refine ⟨fun j hj => ?_, fun j a _ _ ha => ?_⟩
  · cases j with
    | string s =>
      obtain ⟨a, -, rfl⟩ := List.mem_map.mp (by simpa [meets, string?] using hj : s ∈ all.map text)
      simp only [decodeName, hfind]
      simpa [meets] using hj
    | _ => simp [meets, string?] at hj
  · refine ⟨?_, hfind a, by simp [inOrder]⟩
    simp [meets, inOrder, string?, hall]

theorem describes_anyObject : Describes .anyObject object? .object := by
  refine ⟨fun j h => ?_, fun j ms hvalue _ hms => ?_⟩
  · cases j <;> simp_all [meets, Kind.holds, object?]
  · cases j with
    | object members =>
      cases hms
      rw [inOrder_of_isValue _ hvalue]
      exact ⟨rfl, rfl, id⟩
    | _ => cases hms

theorem Describes.named (h : Describes c decode encode) (name : String) :
    Describes (.named name c) decode encode :=
  ⟨h.accepts, h.returns⟩

theorem Describes.noted (h : Describes c decode encode) (notes : List (String × Json)) :
    Describes (.noted notes c) decode encode :=
  ⟨h.accepts, h.returns⟩

theorem Describes.all (h : Describes c decode encode) : Describes (.all [c]) decode encode := by
  have hone : ∀ rule j, (Contract.all [c]).meets rule j = c.meets rule j := by
    simp [meets, meetsAll]
  refine ⟨fun j hj => ?_, fun j a => ?_⟩
  · rw [hone] at hj ⊢
    exact h.accepts j hj
  · rw [hone, hone]
    exact h.returns j a

theorem Describes.list (h : Describes c decode encode) :
    Describes (.list c) (decodeList decode) (ofList encode) := by
  refine ⟨fun j hj => ?_, fun j as hvalue hj has => ?_⟩
  · cases j with
    | array items =>
      simp only [meets, List.all_eq_true] at hj ⊢
      rw [decodeList, array?, Option.bind_some, isSome_mapM]
      exact forall₂_congr fun e he => h.accepts e (hj e he)
    | _ => simp [meets] at hj
  · cases j with
    | array items =>
      simp only [meets, List.all_eq_true] at hj
      have hreturns : ∀ a ∈ as, c.meets NumberFormat.bySign (encode a).inOrder = true ∧
          decode (encode a).inOrder = some a := by
        intro a ha
        obtain ⟨e, he, hdecode⟩ := exists_of_mapM_eq_some has ha
        have hreturned := h.returns e a (isValue_array.mp hvalue e he) (hj e he) hdecode
        exact ⟨hreturned.1, hreturned.2.1⟩
      rw [inOrder_ofList]
      refine ⟨?_, ?_, by simp⟩
      · simp only [meets, List.all_map, List.all_eq_true]
        exact fun a ha => (hreturns a ha).1
      · rw [decodeList, array?, Option.bind_some, mapM_eq_some, List.map_map]
        exact List.map_congr_left fun a ha => (hreturns a ha).2
    | _ => simp [meets] at hj

theorem Describes.map (h : Describes c decode encode) : Describes (.map c) (decodeMap decode)
    (fun as => .object (as.map fun a => (a.1, encode a.2))) := by
  refine ⟨fun j hj => ?_, fun j as hvalue hj has => ?_⟩
  · cases j with
    | object ms =>
      simp only [meets, List.all_eq_true] at hj ⊢
      rw [decodeMap, object?, Option.bind_some, isSome_mapM]
      refine forall₂_congr fun m hm => ?_
      rw [Option.isSome_map]
      exact h.accepts m.2 (hj m hm)
    | _ => simp [meets] at hj
  · cases j with
    | object ms =>
      simp only [meets, List.all_eq_true] at hj
      obtain ⟨hkeys, hvalues⟩ := isValue_object.mp hvalue
      have hreturns : ∀ a ∈ as, c.meets NumberFormat.bySign (encode a.2).inOrder = true ∧
          decode (encode a.2).inOrder = some a.2 := by
        intro a ha
        obtain ⟨m, hm, hdecode⟩ := exists_of_mapM_eq_some has ha
        obtain ⟨b, hb, rfl⟩ := Option.map_eq_some_iff.mp hdecode
        have hreturned := h.returns m.2 b (hvalues m hm) (hj m hm) hb
        exact ⟨hreturned.1, hreturned.2.1⟩
      have hsame : ms.map Prod.fst = as.map Prod.fst := by
        refine map_of_map_eq (mapM_eq_some.mp has) fun m _ a ha => ?_
        obtain ⟨b, -, rfl⟩ := Option.map_eq_some_iff.mp ha
        rfl
      have hordered : InOrder as := by
        rw [InOrder, ← List.pairwise_map (f := Prod.fst)] at hkeys ⊢
        rwa [← hsame]
      rw [inOrder_object_of_inOrder encode hordered]
      refine ⟨?_, ?_, by simp⟩
      · simp only [meets, List.all_map, List.all_eq_true]
        exact fun a ha => (hreturns a ha).1
      · rw [decodeMap, object?, Option.bind_some, mapM_eq_some, List.map_map]
        refine List.map_congr_left fun a ha => ?_
        simp [(hreturns a ha).2]
    | _ => simp [meets] at hj

end Fixtures.Contract

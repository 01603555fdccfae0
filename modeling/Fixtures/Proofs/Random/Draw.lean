import Fixtures.Random.Draw

namespace Fixtures.Random

section

variable {α β : Type} {p q : α → Prop}

def Gives (d : Draw α) (p : α → Prop) : Prop :=
  ∀ s a t, d s = .ok (a, t) → p a

theorem gives_pure {a : α} (h : p a) : Gives (pure a) p := by
  intro s b t hb
  cases hb
  exact h

theorem gives_true (d : Draw α) : Gives d fun _ => True := fun _ _ _ _ => trivial

theorem Gives.mono {d : Draw α} (h : Gives d p) (hpq : ∀ a, p a → q a) : Gives d q :=
  fun s a t ha => hpq a (h s a t ha)

theorem Gives.bind {d : Draw α} {f : α → Draw β} {r : β → Prop} (hd : Gives d p)
    (hf : ∀ a, p a → Gives (f a) r) : Gives (d >>= f) r := by
  intro s b t hb
  cases h : d s with
  | error e => simp [Bind.bind, StateT.bind, Except.bind, h] at hb
  | ok drawn =>
    obtain ⟨a, u⟩ := drawn
    simp only [Bind.bind, StateT.bind, Except.bind, h] at hb
    exact hf a (hd s a u h) u b t hb

theorem gives_mapM {xs : List β} {f : β → Draw α} (h : ∀ x, Gives (f x) p) :
    Gives (xs.mapM f) fun as => as.length = xs.length ∧ ∀ a ∈ as, p a := by
  induction xs with
  | nil => exact gives_pure (by simp)
  | cons x xs ih =>
    rw [List.mapM_cons]
    refine (h x).bind fun a ha => ih.bind fun as has => gives_pure ?_
    exact ⟨by simp [has.1], List.forall_mem_cons.mpr ⟨ha, has.2⟩⟩

theorem gives_word32 : Gives word32 fun word => word < twoTo 32 := by
  intro s word t h
  have hw : (s.next.1).toNat = word := congrArg Prod.fst (Except.ok.inj h)
  rw [← hw]
  exact (s.next.1).toNat_lt

theorem gives_word64 : Gives word64 fun word => word < twoTo 64 := by
  refine gives_word32.bind fun low hlow => gives_word32.bind fun high hhigh => gives_pure ?_
  simp only [twoTo, Nat.pow_eq, Nat.reducePow] at *
  omega

theorem gives_word (width : Width) : Gives width.word fun word => word < width.modulus := by
  cases width with
  | bits32 => exact gives_word32
  | bits64 => exact gives_word64

/-- The high half of a product of a word and a range is below the range, also after a carry: in the
last part of the range the low half is too small for one. -/
theorem part_add_one_lt {modulus range word rest : Nat} (hword : word < modulus)
    (hrest : rest = word * range % modulus) (hcarry : modulus - range < rest) :
    word * range / modulus + 1 < range := by
  have hdiv : modulus * (word * range / modulus) + rest = word * range := by
    rw [hrest]
    exact Nat.div_add_mod _ _
  have hle : word * range + range ≤ modulus * range := by
    have := Nat.mul_le_mul_right range hword
    rwa [Nat.succ_mul] at this
  apply Nat.lt_of_not_le
  intro hge
  have hpart : modulus * range ≤ modulus * (word * range / modulus) + modulus := by
    have := Nat.mul_le_mul_left modulus hge
    rwa [Nat.mul_succ] at this
  omega

theorem part_lt {modulus range word : Nat} (hword : word < modulus) (hrange : 0 < range) :
    word * range / modulus < range := by
  rw [Nat.div_lt_iff_lt_mul (by omega), Nat.mul_comm range]
  exact Nat.mul_lt_mul_of_pos_right hword hrange

theorem width_modulus_pos (width : Width) : 0 < width.modulus := by
  cases width <;> simp [Width.modulus, twoTo]

theorem gives_between (width : Width) {low high : Int} (h : low ≤ high) :
    Gives (between width low high) fun n => low ≤ n ∧ n ≤ high := by
  have hm := width_modulus_pos width
  have hm' : (0 : Int) < width.modulus := by omega
  have hnonneg := Int.emod_nonneg (high - low + 1) (Int.ne_of_gt hm')
  have hle : (high - low + 1) % width.modulus ≤ high - low + 1 := by
    have hdiv := Int.emod_add_mul_ediv (high - low + 1) width.modulus
    have hquot := Int.mul_nonneg (Int.le_of_lt hm')
      (Int.ediv_nonneg (a := high - low + 1) (by omega) (Int.le_of_lt hm'))
    omega
  unfold between
  rw [if_neg (Int.not_lt.mpr h)]
  refine (gives_word width).bind fun word hword => ?_
  simp only
  split
  · next hzero =>
    refine gives_pure ?_
    have hdvd : (high - low + 1) % width.modulus = 0 := by omega
    have hge := Int.le_of_dvd (by omega) (Int.dvd_of_emod_eq_zero hdvd)
    have hr := Int.emod_nonneg ((word : Int) - low) (Int.ne_of_gt hm')
    have hlt := Int.emod_lt_of_pos ((word : Int) - low) hm'
    omega
  · next hrange =>
    have hpart := part_lt hword (Nat.pos_of_ne_zero hrange)
    split
    · next hcarry =>
      have hpart' := part_add_one_lt hword rfl hcarry
      refine (gives_word width).bind fun second hsecond => gives_pure ?_
      generalize word * _ / _ = part at hpart hpart' ⊢
      split <;> omega
    · refine gives_pure ?_
      generalize word * _ / _ = part at hpart ⊢
      omega

theorem gives_index {count : Nat} (h : 0 < count) : Gives (index count) fun i => i < count := by
  refine (gives_between _ (by omega)).bind fun n hn => gives_pure ?_
  omega

theorem gives_choose {fallback : α} {items : List α} (h : items ≠ []) :
    Gives (choose fallback items) fun a => a ∈ items := by
  refine (gives_index (List.length_pos_iff.mpr h)).bind fun i hi => gives_pure ?_
  rw [List.getD_eq_getElem?_getD, List.getElem?_eq_getElem hi]
  exact List.getElem_mem hi

end

section

variable {α β : Type} {p : α → Prop} {q r : Fault → Prop}

def FaultsOnly (d : Draw α) (q : Fault → Prop) : Prop :=
  ∀ s f, d s = .error f → q f

def IsTotal (d : Draw α) : Prop :=
  FaultsOnly d fun _ => False

theorem FaultsOnly.mono {d : Draw α} (h : FaultsOnly d q) (hqr : ∀ f, q f → r f) : FaultsOnly d r :=
  fun s f hf => hqr f (h s f hf)

theorem IsTotal.faultsOnly {d : Draw α} (h : IsTotal d) : FaultsOnly d q :=
  h.mono fun _ => False.elim

theorem faultsOnly_pure (a : α) : FaultsOnly (pure a) q :=
  fun _ _ hf => by cases hf

theorem faultsOnly_lift {x : Except Fault α} (h : ∀ f, x = .error f → q f) :
    FaultsOnly (liftM x) q := by
  intro s f hf
  cases x with
  | error g =>
    cases hf
    exact h _ rfl
  | ok a => cases hf

theorem FaultsOnly.bind_gives {d : Draw α} {f : α → Draw β} (hd : FaultsOnly d q)
    (hgives : Gives d p) (hf : ∀ a, p a → FaultsOnly (f a) q) : FaultsOnly (d >>= f) q := by
  intro s g hg
  cases h : d s with
  | error g' =>
    simp only [Bind.bind, StateT.bind, Except.bind, h] at hg
    cases hg
    exact hd s _ h
  | ok drawn =>
    obtain ⟨a, t⟩ := drawn
    simp only [Bind.bind, StateT.bind, Except.bind, h] at hg
    exact hf a (hgives s a t h) t g hg

theorem FaultsOnly.bind {d : Draw α} {f : α → Draw β} (hd : FaultsOnly d q)
    (hf : ∀ a, FaultsOnly (f a) q) : FaultsOnly (d >>= f) q :=
  hd.bind_gives (gives_true d) fun a _ => hf a

theorem faultsOnly_mapM {xs : List β} {f : β → Draw α} (h : ∀ x ∈ xs, FaultsOnly (f x) q) :
    FaultsOnly (xs.mapM f) q := by
  induction xs with
  | nil => exact faultsOnly_pure []
  | cons x xs ih =>
    obtain ⟨hx, hxs⟩ := List.forall_mem_cons.mp h
    rw [List.mapM_cons]
    exact hx.bind fun a => (ih hxs).bind fun as => faultsOnly_pure _

theorem IsTotal.exists_of_gives {d : Draw α} (h : IsTotal d) (hgives : Gives d p) (s : Source) :
    ∃ a t, d s = .ok (a, t) ∧ p a := by
  cases hd : d s with
  | error f => exact (h s f hd).elim
  | ok drawn => exact ⟨drawn.1, drawn.2, rfl, hgives s _ _ hd⟩

def AlwaysFails (d : Draw α) (f : Fault) : Prop :=
  ∀ s, d s = .error f

theorem FaultsOnly.eq_error_iff {d : Draw α} {f g : Fault} {c : Prop} {s : Source}
    (h : FaultsOnly d fun f => f = g ∧ c) (halways : c → AlwaysFails d g) :
    d s = .error f ↔ f = g ∧ c := by
  refine ⟨h s f, ?_⟩
  rintro ⟨rfl, hc⟩
  exact halways hc s

theorem AlwaysFails.bind {d : Draw α} {g : α → Draw β} {f : Fault} (h : AlwaysFails d f) :
    AlwaysFails (d >>= g) f := by
  intro s
  simp only [Bind.bind, StateT.bind, Except.bind, h s]

theorem IsTotal.alwaysFails_bind {d : Draw α} {g : α → Draw β} {f : Fault} (hd : IsTotal d)
    (hgives : Gives d p) (hg : ∀ a, p a → AlwaysFails (g a) f) : AlwaysFails (d >>= g) f := by
  intro s
  obtain ⟨a, t, ha, hp⟩ := hd.exists_of_gives hgives s
  simp only [Bind.bind, StateT.bind, Except.bind, ha, hg a hp t]

theorem isTotal_word32 : IsTotal word32 :=
  fun _ _ hf => by cases hf

theorem isTotal_word64 : IsTotal word64 :=
  isTotal_word32.bind fun _ => isTotal_word32.bind fun _ => faultsOnly_pure _

theorem isTotal_word (width : Width) : IsTotal width.word := by
  cases width with
  | bits32 => exact isTotal_word32
  | bits64 => exact isTotal_word64

theorem isTotal_fill (n : Nat) : IsTotal (fill n) := by
  fun_induction fill n with
  | case1 n ih => exact isTotal_word32.bind fun word => ih.bind fun rest => faultsOnly_pure _
  | case2 => exact faultsOnly_pure _
  | case3 => exact isTotal_word32.bind fun word => faultsOnly_pure _

theorem faultsOnly_reserve (count itemBytes : Nat) :
    FaultsOnly (reserve count itemBytes) fun f => f = .listTooLong ∧
      byteLimit ≤ count * itemBytes := by
  intro s f hf
  unfold reserve at hf
  split at hf
  · next hlimit =>
    cases hf
    exact ⟨rfl, hlimit⟩
  · cases hf

theorem alwaysFails_reserve {count itemBytes : Nat} (h : byteLimit ≤ count * itemBytes) :
    AlwaysFails (reserve count itemBytes) .listTooLong := by
  intro s
  unfold reserve
  rw [if_pos h]
  rfl

theorem isTotal_between (width : Width) {low high : Int} (h : low ≤ high) :
    IsTotal (between width low high) := by
  unfold between
  rw [if_neg (Int.not_lt.mpr h)]
  refine (isTotal_word width).bind fun word => ?_
  simp only
  split
  · exact faultsOnly_pure _
  · split
    · exact (isTotal_word width).bind fun second => faultsOnly_pure _
    · exact faultsOnly_pure _

theorem isTotal_index {count : Nat} (h : 0 < count) : IsTotal (index count) :=
  (isTotal_between _ (by omega)).bind fun _ => faultsOnly_pure _

theorem isTotal_choose {fallback : α} {items : List α} (h : items ≠ []) :
    IsTotal (choose fallback items) :=
  (isTotal_index (List.length_pos_iff.mpr h)).bind fun _ => faultsOnly_pure _

theorem isTotal_evenlyFrom (count threshold fuel : Nat) :
    IsTotal (evenlyFrom count threshold fuel) := by
  induction fuel with
  | zero => exact faultsOnly_pure 0
  | succ fuel ih =>
    refine isTotal_word32.bind fun word => ?_
    simp only
    split
    · exact ih
    · exact faultsOnly_pure _

theorem isTotal_evenly (count : Nat) : IsTotal (evenly count) := by
  unfold evenly
  split
  · exact isTotal_word32
  · exact isTotal_evenlyFrom _ _ _

theorem isTotal_unitFloat : IsTotal unitFloat :=
  isTotal_word64.bind fun _ => faultsOnly_pure _

theorem alwaysFails_floatBetween {low high : Float} (h : (high - low).isFinite = false) :
    AlwaysFails (floatBetween low high) .widthNotFinite := by
  intro s
  unfold floatBetween
  simp only [h]
  rfl

/-- Numbers are chosen from between two others unless these are infinitely far apart. -/
theorem faultsOnly_floatBetween (low high : Float) :
    FaultsOnly (floatBetween low high) fun f =>
      f = .widthNotFinite ∧ (high - low).isFinite = false := by
  cases h : (high - low).isFinite with
  | true =>
    unfold floatBetween
    simp only [h]
    exact isTotal_word64.faultsOnly.bind fun _ => faultsOnly_pure _
  | false =>
    intro s f hf
    rw [alwaysFails_floatBetween h s] at hf
    cases hf
    exact ⟨rfl, rfl⟩

theorem lt_or_beq_of_le {x y : Float} (h : x ≤ y) : x < y ∨ (x == y) = true := by
  have hle : x.toModel.le y.toModel = true := of_decide_eq_true (p := x.toModel ≤ y.toModel) h
  have hcases : x.toModel.lt y.toModel = true ∨ x.toModel.beq y.toModel = true := by
    unfold Float.Model.le Float.Model.UnpackedFloat.le at hle
    unfold Float.Model.lt Float.Model.UnpackedFloat.lt Float.Model.beq Float.Model.UnpackedFloat.beq
    cases hcompare : x.toModel.unpack.compare y.toModel.unpack with
    | none => simp [hcompare] at hle
    | some order => cases order <;> simp_all
  exact hcases.imp_left (decide_eq_true (p := x.toModel < y.toModel))

theorem isTotal_chance {x : Float} (hlow : 0.0 ≤ x) (hhigh : x ≤ 1.0) : IsTotal (chance x) := by
  unfold chance
  rcases lt_or_beq_of_le hhigh with hlt | heq
  · split
    · exact faultsOnly_pure true
    · rw [if_pos (by simp [hlow, hlt])]
      exact isTotal_word64.bind fun _ => faultsOnly_pure _
  · rw [if_pos heq]
    exact faultsOnly_pure true

end

end Fixtures.Random

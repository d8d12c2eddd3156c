import Mathlib.Data.Int.CardIntervalMod
import Mathlib.Data.Nat.Periodic

/-!
# Where an arithmetic progression falls modulo a number

The residues of `c, c + m, c + 2m, …` modulo `W` are those congruent to `c` modulo `d = gcd m W`,
and in `W` steps each of them is met exactly `d` times.  So a window of `w` residues is met `w`
times **if and only if `d` divides `w`**.
-/

namespace NantianGateway.Residues

open Finset

variable {W m c x : ℕ}

/-! ## Solving for the step -/

theorem exists_mul_modEq_of_gcd_dvd (hW : 0 < W) {y : ℕ} (h : m.gcd W ∣ y) :
    ∃ j, m * j ≡ y [MOD W] := by
  obtain ⟨q, rfl⟩ := h
  have hd : 0 < m.gcd W := Nat.gcd_pos_of_pos_right m hW
  obtain ⟨m', hm⟩ := Nat.gcd_dvd_left m W
  obtain ⟨W', hW'⟩ := Nat.gcd_dvd_right m W
  have hcoprime : Nat.Coprime m' W' := by
    have h := Nat.coprime_div_gcd_div_gcd hd
    rwa [Nat.div_eq_of_eq_mul_right hd hm, Nat.div_eq_of_eq_mul_right hd hW'] at h
  have hne : W' ≠ 0 := by
    rintro rfl
    rw [hW', Nat.mul_zero] at hW
    exact Nat.lt_irrefl 0 hW
  obtain ⟨j, -, hj⟩ := Nat.exists_mul_mod_eq_of_coprime q hcoprime hne
  refine ⟨j, ?_⟩
  have hmul : m.gcd W * (m' * j) ≡ m.gcd W * q [MOD m.gcd W * W'] :=
    Nat.ModEq.mul_left' (m.gcd W) hj
  rwa [← Nat.mul_assoc, ← hm, ← hW'] at hmul

theorem exists_step_modEq_iff (hW : 0 < W) :
    (∃ j < W, c + m * j ≡ x [MOD W]) ↔ x ≡ c [MOD m.gcd W] := by
  constructor
  · rintro ⟨j, -, hj⟩
    have hgcd : c + m * j ≡ x [MOD m.gcd W] := hj.of_dvd (Nat.gcd_dvd_right m W)
    have hstep : c + m * j ≡ c + 0 [MOD m.gcd W] :=
      Nat.ModEq.add_left c (Nat.modEq_zero_iff_dvd.mpr ((Nat.gcd_dvd_left m W).mul_right j))
    exact hgcd.symm.trans hstep
  · intro hx
    -- a representative of `x` beyond `c`
    have hle : c ≤ x + W * c := Nat.le_add_left_of_le (Nat.le_mul_of_pos_left c hW)
    have hrep : x + W * c ≡ x [MOD W] := by
      have h := Nat.ModEq.add_left x (Nat.modEq_zero_iff_dvd.mpr (Nat.dvd_mul_right W c))
      exact h
    have hdvd : m.gcd W ∣ x + W * c - c :=
      (Nat.modEq_iff_dvd' hle).mp (hx.symm.trans (hrep.of_dvd (Nat.gcd_dvd_right m W)).symm)
    obtain ⟨j, hj⟩ := exists_mul_modEq_of_gcd_dvd hW hdvd
    refine ⟨j % W, Nat.mod_lt j hW, ?_⟩
    calc c + m * (j % W) ≡ c + m * j [MOD W] := ((Nat.mod_modEq j W).mul_left m).add_left c
      _ ≡ c + (x + W * c - c) [MOD W] := hj.add_left c
      _ ≡ x [MOD W] := by rw [Nat.add_sub_of_le hle]; exact hrep

theorem step_modEq_step_iff (hW : 0 < W) {i j : ℕ} :
    c + m * i ≡ c + m * j [MOD W] ↔ i ≡ j [MOD W / m.gcd W] := by
  constructor
  · intro h
    have hcancel := Nat.ModEq.cancel_left_div_gcd hW (h.add_left_cancel' c)
    rwa [Nat.gcd_comm] at hcancel
  · intro h
    obtain ⟨m', hm⟩ := Nat.gcd_dvd_left m W
    have hmul : m.gcd W * i ≡ m.gcd W * j [MOD m.gcd W * (W / m.gcd W)] := h.mul_left' _
    rw [Nat.mul_div_cancel' (Nat.gcd_dvd_right m W)] at hmul
    refine Nat.ModEq.add_left c ?_
    have hscaled := hmul.mul_left m'
    rwa [← Nat.mul_assoc, ← Nat.mul_assoc, Nat.mul_comm m', ← hm] at hscaled

/-! ## Counting -/

theorem card_window_modEq {d w : ℕ} (hd : 0 < d) (h : d ∣ w) (a c : ℕ) :
    #{x ∈ Ico a (a + w) | x ≡ c [MOD d]} = w / d := by
  have hperiodic : Function.Periodic (· ≡ c [MOD d]) w := by
    intro x
    have hadd : x + w ≡ x [MOD d] := Nat.ModEq.add_left x (Nat.modEq_zero_iff_dvd.mpr h)
    exact propext ⟨fun hx => hadd.symm.trans hx, fun hx => hadd.trans hx⟩
  rw [Nat.filter_Ico_card_eq_of_periodic a w _ hperiodic, Nat.count_modEq_card _ hd,
    Nat.mod_eq_zero_of_dvd h, if_neg (Nat.not_lt_zero _), Nat.add_zero]

/-- **In `W` steps a residue is met `d` times or never.** -/
theorem card_steps_modEq (hW : 0 < W) : #{j ∈ range W | c + m * j ≡ x [MOD W]}
      = if x ≡ c [MOD m.gcd W] then m.gcd W else 0 := by
  split
  next hx =>
    obtain ⟨j, -, hj⟩ := (exists_step_modEq_iff hW).mpr hx
    have hd := Nat.gcd_pos_of_pos_right m hW
    have hsteps : {i ∈ range W | c + m * i ≡ x [MOD W]}
        = {i ∈ Ico 0 (0 + W) | i ≡ j [MOD W / m.gcd W]} := by
      rw [Nat.zero_add, Nat.Ico_zero_eq_range]
      refine filter_congr fun i _ => ?_
      rw [← step_modEq_step_iff hW]
      exact ⟨fun hi => hi.trans hj.symm, fun hi => hi.trans hj⟩
    rw [hsteps, card_window_modEq (Nat.div_pos (Nat.le_of_dvd hW (Nat.gcd_dvd_right m W)) hd)
      (Nat.div_dvd_of_dvd (Nat.gcd_dvd_right m W)),
      Nat.div_div_self (Nat.gcd_dvd_right m W) hW.ne']
  next hx =>
    rw [card_eq_zero, filter_eq_empty_iff]
    exact fun j hj h => hx ((exists_step_modEq_iff hW).mp ⟨j, mem_range.mp hj, h⟩)

variable {a w : ℕ}

theorem card_visits (hW : 0 < W) (h : a + w ≤ W) :
    #{j ∈ range W | a ≤ (c + m * j) % W ∧ (c + m * j) % W < a + w}
      = m.gcd W * #{x ∈ Ico a (a + w) | x ≡ c [MOD m.gcd W]} := by
  have hmaps : ∀ j ∈ ({j ∈ range W | a ≤ (c + m * j) % W ∧ (c + m * j) % W < a + w} : Finset ℕ),
      (c + m * j) % W ∈ Ico a (a + w) := fun j hj => mem_Ico.mpr (mem_filter.mp hj).2
  have hfiber : ∀ x ∈ Ico a (a + w),
      #{j ∈ {j ∈ range W | a ≤ (c + m * j) % W ∧ (c + m * j) % W < a + w} | (c + m * j) % W = x}
        = if x ≡ c [MOD m.gcd W] then m.gcd W else 0 := by
    intro x hx
    rw [← card_steps_modEq hW, filter_filter]
    obtain ⟨hlo, hhi⟩ := mem_Ico.mp hx
    refine congrArg card (filter_congr fun j _ => ?_)
    rw [Nat.ModEq, Nat.mod_eq_of_lt (hhi.trans_le h)]
    constructor
    · exact fun hj => hj.2
    · rintro rfl
      exact ⟨⟨hlo, hhi⟩, rfl⟩
  rw [card_eq_sum_card_fiberwise hmaps, sum_congr rfl hfiber, ← sum_filter, sum_const, smul_eq_mul,
    Nat.mul_comm]

/-- **A window gets its fair share of the steps if and only if `d` divides its length.** -/
theorem card_visits_eq_iff (hW : 0 < W) (h : a + w ≤ W) :
    #{j ∈ range W | a ≤ (c + m * j) % W ∧ (c + m * j) % W < a + w} = w ↔ m.gcd W ∣ w := by
  rw [card_visits hW h]
  constructor
  · exact fun hw => Dvd.intro _ hw
  · intro hdvd
    rw [card_window_modEq (Nat.gcd_pos_of_pos_right m hW) hdvd, Nat.mul_div_cancel' hdvd]

theorem card_visits_mul (q : ℕ) :
    #{j ∈ range (q * W) | (c + m * j) % W < w} = q * #{j ∈ range W | (c + m * j) % W < w} := by
  have hperiodic : ∀ q j : ℕ, (c + m * (q * W + j)) % W = (c + m * j) % W := by
    intro q j
    rw [Nat.mul_add, Nat.add_left_comm, ← Nat.mul_assoc, Nat.mul_add_mod_self_right]
  simp only [← Nat.count_eq_card_filter_range]
  induction q with
  | zero => simp
  | succ q ih => simp only [Nat.succ_mul, Nat.count_add, ih, hperiodic]

/-! ## Meeting a window -/

theorem exists_mem_window_modEq {d w : ℕ} (hd : 0 < d) (hw : d ≤ w) (a c : ℕ) :
    ∃ x, a ≤ x ∧ x < a + w ∧ x ≡ c [MOD d] := by
  have hcard : 0 < #{x ∈ Ico a (a + d) | x ≡ c [MOD d]} := by
    rw [card_window_modEq hd dvd_rfl, Nat.div_self hd]
    exact Nat.one_pos
  obtain ⟨x, hx⟩ := card_pos.mp hcard
  obtain ⟨hmem, hmod⟩ := mem_filter.mp hx
  obtain ⟨hlo, hhi⟩ := mem_Ico.mp hmem
  exact ⟨x, hlo, hhi.trans_le (Nat.add_le_add_left hw a), hmod⟩

theorem exists_step_mem (hW : 0 < W) (h : a + w ≤ W) (hw : m.gcd W ≤ w) :
    ∃ j < W, a ≤ (c + m * j) % W ∧ (c + m * j) % W < a + w := by
  obtain ⟨x, hlo, hhi, hx⟩ := exists_mem_window_modEq (Nat.gcd_pos_of_pos_right m hW) hw a c
  obtain ⟨j, hj, hstep⟩ := (exists_step_modEq_iff hW).mpr hx
  have hmod : (c + m * j) % W = x := by rw [hstep, Nat.mod_eq_of_lt (hhi.trans_le h)]
  exact ⟨j, hj, by rw [hmod]; exact ⟨hlo, hhi⟩⟩

/-! ## Two progressions with one step -/

variable {k n u : ℕ}

/-- **Two residues at once.**  A window modulo `W` and a residue modulo `n` are met in one step of
size `k`, when the window is at least as long as `gcd (k * n) W`, and `k` is coprime to `n`. -/
theorem exists_common_step (hW : 0 < W) (hn : 0 < n) (hu : u.Coprime W)
    (hk : k.Coprime n) (h : a + w ≤ W) (hw : (k * n).gcd W ≤ w) (b e p : ℕ) :
    ∃ j < W * n, (a ≤ (b + k * j) * u % W ∧ (b + k * j) * u % W < a + w) ∧
      e + k * j ≡ p [MOD n] := by
  have hany : p ≡ e [MOD k.gcd n] := by rw [hk]; exact Nat.modEq_one
  obtain ⟨i, hi, hresidue⟩ := (exists_step_modEq_iff hn).mpr hany
  have hgcd : (k * n * u).gcd W ≤ w := by rwa [hu.gcd_mul_right_cancel]
  obtain ⟨t, ht, hwindow⟩ := @exists_step_mem W (k * n * u) ((b + k * i) * u) a w hW h hgcd
  have hstep : (b + k * (i + n * t)) * u = (b + k * i) * u + k * n * u * t := by ring
  refine ⟨i + n * t, ?_, ?_, ?_⟩
  · calc i + n * t < n + n * t := Nat.add_lt_add_right hi _
      _ = n * (t + 1) := by rw [Nat.mul_succ, Nat.add_comm]
      _ ≤ n * W := Nat.mul_le_mul_left n ht
      _ = W * n := Nat.mul_comm n W
  · rwa [hstep]
  · have hturn : e + k * (i + n * t) = e + k * i + n * (k * t) := by ring
    rw [hturn]
    exact (Nat.ModEq.add_left _ (Nat.modEq_zero_iff_dvd.mpr (Nat.dvd_mul_right _ _))).trans hresidue

theorem coprime_of_step_modEq_succ {j : ℕ} (h : c + k * j ≡ c + 1 [MOD n]) : k.Coprime n := by
  have hone : k * j ≡ 1 [MOD n] := h.add_left_cancel' c
  exact Nat.Coprime.coprime_mul_right (hone.gcd_eq.trans (Nat.gcd_one_left n))

theorem le_of_window_meets {d a w : ℕ}
    (h : ∀ r < d, ∃ x, a ≤ x ∧ x < a + w ∧ x ≡ r [MOD d]) : d ≤ w := by
  have hsubset : range d ⊆ (Ico a (a + w)).image (· % d) := by
    intro r hr
    obtain ⟨x, hlo, hhi, hx⟩ := h r (mem_range.mp hr)
    refine mem_image.mpr ⟨x, mem_Ico.mpr ⟨hlo, hhi⟩, ?_⟩
    rw [hx, Nat.mod_eq_of_lt (mem_range.mp hr)]
  have hcard := (card_le_card hsubset).trans card_image_le
  rwa [card_range, Nat.card_Ico, Nat.add_sub_cancel_left] at hcard

/-- **The condition on the window is needed**: if it is always met in a step in which the second
progression is back at its start, it is at least as long as `gcd (k * n) W`. -/
theorem gcd_le_of_common_steps (hW : 0 < W) (hu : u.Coprime W) (hk : k.Coprime n)
    {b e : ℕ} (h : ∀ start < W, ∃ j,
      (a ≤ (start + b + k * j) * u % W ∧ (start + b + k * j) * u % W < a + w) ∧
        e + k * j ≡ e [MOD n]) : (k * n).gcd W ≤ w := by
  have hdvd : (k * n).gcd W ∣ W := Nat.gcd_dvd_right _ _
  refine @le_of_window_meets _ a w fun r _ => ?_
  -- a start from which the first progression is at `r` whenever the second is back
  have hany : r ≡ b * u [MOD u.gcd W] := by rw [hu]; exact Nat.modEq_one
  obtain ⟨start, hst, hr⟩ := (exists_step_modEq_iff hW).mpr hany
  obtain ⟨j, ⟨hlo, hhi⟩, hback⟩ := h start hst
  have hturns : n ∣ k * j := (Nat.modEq_zero_iff_dvd).mp (hback.add_left_cancel' e)
  obtain ⟨t, rfl⟩ := hk.symm.dvd_of_dvd_mul_left hturns
  refine ⟨_, hlo, hhi, ?_⟩
  calc (start + b + k * (n * t)) * u % W
      ≡ (start + b + k * (n * t)) * u [MOD (k * n).gcd W] := (Nat.mod_modEq _ _).of_dvd hdvd
    _ = b * u + u * start + k * n * (t * u) := by ring
    _ ≡ b * u + u * start [MOD (k * n).gcd W] := Nat.ModEq.add_left _
        (Nat.modEq_zero_iff_dvd.mpr ((Nat.gcd_dvd_left _ _).mul_right _))
    _ ≡ r [MOD (k * n).gcd W] := hr.of_dvd hdvd

end NantianGateway.Residues

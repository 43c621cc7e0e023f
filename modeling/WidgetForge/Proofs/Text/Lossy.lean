import WidgetForge.Proofs.Text.Split
import WidgetForge.Proofs.Text.Utf8

/-!
# Octets that are read leniently are read line by line

A line feed is an octet of its own: it continues no sequence, so it ends any sequence that is not
complete, and no other octets show as one. Reading octets leniently therefore commutes with cutting
them at a line feed, however ill-formed they are. Every line feed that is shown is one of the
octets, and the octets before it and those behind it are read as if they stood alone.
-/

namespace WidgetForge.Text.Utf8

/-! ### One piece -/

/-- Reading goes on somewhere in the octets behind the lead octet. -/
theorem next_suffix (a : UInt8) (rest : Octets) : (next a rest).2 <:+ rest := by
  fun_cases next a rest <;> simp [List.suffix_cons_iff]

theorem mayFollow_lineFeed (a : UInt8) : mayFollow a 10 = false := by
  unfold mayFollow
  split_ifs <;> rfl

/-- A line feed and what stands behind it are left for later. A sequence that the end of the octets
cuts off is broken by the line feed instead, which shows the same. -/
theorem next_append (a : UInt8) (rest behind : Octets) :
    ∃ piece, next a (rest ++ 10 :: behind) = (piece, (next a rest).2 ++ 10 :: behind) ∧
      piece.shown = (next a rest).1.shown := by
  have hcontinuation : isContinuation 10 = false := rfl
  fun_cases next a rest <;>
    simp only [next, List.nil_append, List.cons_append, mayFollow_lineFeed, *, if_true,
      if_false, Bool.not_true, Bool.not_false, Bool.false_eq_true]
  all_goals exact ⟨_, rfl, rfl⟩

/-- The number of a line feed is 10, and numbers that are no characters give another one. -/
theorem eq_ten_of_ofNat {n : Nat} (h : Char.ofNat n = '\n') : n = 10 := by
  by_cases hvalid : n.isValidChar
  · have hback : (Char.ofNat n).toNat = n := by
      rw [Char.ofNat, dif_pos hvalid]
      rfl
    rw [← hback, h]
    rfl
  · rw [Char.ofNat, dif_neg hvalid] at h
    exact absurd h (by decide)

theorem toNat_of_between {a least greatest : UInt8}
    (h : (decide (least ≤ a) && decide (a ≤ greatest)) = true) :
    least.toNat ≤ a.toNat ∧ a.toNat ≤ greatest.toNat := by
  simpa [UInt8.le_iff_toNat_le] using h

/-- Behind these two lead octets no small octet may follow, as there are shorter sequences. -/
theorem toNat_of_mayFollow {a b : UInt8} (h : mayFollow a b = true) :
    (a.toNat = 0xe0 → 0xa0 ≤ b.toNat ∧ b.toNat ≤ 0xbf) ∧
      (a.toNat = 0xf0 → 0x90 ≤ b.toNat ∧ b.toNat ≤ 0xbf) := by
  constructor
  · intro ha
    obtain rfl : a = 0xe0 := UInt8.toNat_inj.mp ha
    exact toNat_of_between h
  · intro ha
    obtain rfl : a = 0xf0 := UInt8.toNat_inj.mp ha
    exact toNat_of_between h

/-- Only the octet of a line feed shows as one. -/
theorem shown_next_ne {a : UInt8} (ha : a ≠ 10) (rest : Octets) :
    (next a rest).1.shown ≠ '\n' := by
  have hnumber : a.toNat ≠ 10 := fun h => ha (UInt8.toNat_inj.mp h)
  -- a sequence of several octets writes a number that is not that small
  fun_cases next a rest with
  | case1 => exact mt eq_ten_of_ofNat hnumber
  | case3 _ hlead b =>
    have ha : 0xc2 ≤ a.toNat ∧ a.toNat ≤ 0xdf := toNat_of_between hlead
    refine mt eq_ten_of_ofNat ?_
    omega
  | case8 _ _ hlead b hb c =>
    have ha : 0xe0 ≤ a.toNat ∧ a.toNat ≤ 0xef := toNat_of_between hlead
    have hsecond := (toNat_of_mayFollow (by simpa using hb)).1
    refine mt eq_ten_of_ofNat ?_
    unfold low
    omega
  | case15 _ _ _ hlead b hb c _ d =>
    have ha : 0xf0 ≤ a.toNat ∧ a.toNat ≤ 0xf4 := toNat_of_between hlead
    have hsecond := (toNat_of_mayFollow (by simpa using hb)).2
    refine mt eq_ten_of_ofNat ?_
    unfold low
    omega
  | _ => simp [Piece.shown]

/-! ### All pieces -/

/-- To show something of all octets it is enough to show it of the octets that begin with a piece,
from what is left behind this piece. -/
theorem induction_on_piece {motive : Octets → Prop} (nil : motive [])
    (cons : ∀ a rest, motive (next a rest).2 → motive (a :: rest)) (bytes : Octets) :
    motive bytes := by
  induction hlength : bytes.length using Nat.strongRecOn generalizing bytes with
  | ind n ih =>
    cases bytes with
    | nil => exact nil
    | cons a rest =>
      refine cons a rest (ih _ ?_ _ rfl)
      rw [← hlength, List.length_cons]
      exact Nat.lt_succ_of_le (next_suffix a rest).length_le

/-- There are no more pieces than octets, so how large their bound is does not matter. -/
theorem piecesUpTo_eq {n m : Nat} {bytes : Octets} (hn : bytes.length ≤ n)
    (hm : bytes.length ≤ m) : piecesUpTo n bytes = piecesUpTo m bytes := by
  induction bytes using induction_on_piece generalizing n m with
  | nil => cases n <;> cases m <;> rfl
  | cons a rest ih =>
    have hleft := (next_suffix a rest).length_le
    simp only [List.length_cons] at hn hm
    obtain ⟨n, rfl⟩ := Nat.exists_eq_succ_of_ne_zero (show n ≠ 0 by omega)
    obtain ⟨m, rfl⟩ := Nat.exists_eq_succ_of_ne_zero (show m ≠ 0 by omega)
    simp only [piecesUpTo, List.cons.injEq, true_and]
    exact ih (by omega) (by omega)

/-- The characters that octets show. -/
def shown (bytes : Octets) : List Char := (pieces bytes).map Piece.shown

theorem toList_decodeLossy (bytes : Octets) : (decodeLossy bytes).toList = shown bytes := by
  rw [decodeLossy, String.toList_ofList, shown]

theorem shown_cons (a : UInt8) (rest : Octets) :
    shown (a :: rest) = (next a rest).1.shown :: shown (next a rest).2 := by
  have hpieces : pieces (a :: rest) =
      (next a rest).1 :: piecesUpTo rest.length (next a rest).2 := rfl
  rw [shown, hpieces, piecesUpTo_eq (next_suffix a rest).length_le (Nat.le_refl _)]
  rfl

/-- Octets show no line feed if they hold none. -/
theorem lineFeed_not_mem_shown {bytes : Octets} (h : 10 ∉ bytes) : '\n' ∉ shown bytes := by
  induction bytes using induction_on_piece with
  | nil => exact List.not_mem_nil
  | cons a rest ih =>
    obtain ⟨ha, hrest⟩ := not_or.mp (mt List.mem_cons.mpr h)
    rw [shown_cons, List.mem_cons, not_or]
    exact ⟨(shown_next_ne (Ne.symm ha) rest).symm, ih (mt (next_suffix a rest).mem hrest)⟩

/-- **What stands before a line feed and what stands behind it show each by itself.** -/
theorem shown_append (before behind : Octets) :
    shown (before ++ 10 :: behind) = shown before ++ '\n' :: shown behind := by
  induction before using induction_on_piece with
  | nil => exact shown_cons 10 behind
  | cons a rest ih =>
    obtain ⟨piece, hnext, hshown⟩ := next_append a rest behind
    rw [List.cons_append, shown_cons, hnext, hshown, ih, shown_cons, List.cons_append]

/-- **Every line feed that is shown is one of the octets.** -/
theorem exists_of_shown_eq {bytes : Octets} {before behind : List Char}
    (h : shown bytes = before ++ '\n' :: behind) :
    ∃ first rest, bytes = first ++ 10 :: rest ∧ shown first = before ∧ shown rest = behind := by
  induction bytes using induction_on_mark (10 : UInt8) generalizing before with
  | last piece hpiece =>
    refine absurd ?_ (lineFeed_not_mem_shown hpiece)
    rw [h]
    exact List.mem_append_right _ List.mem_cons_self
  | more piece rest hpiece ih =>
    rw [shown_append] at h
    rcases List.append_eq_append_iff.mp h with
      ⟨beyond, hbefore, hbeyond⟩ | ⟨beyond, hfirst, hbeyond⟩
    · cases beyond with
      | nil =>
        rw [List.append_nil] at hbefore
        exact ⟨piece, rest, rfl, hbefore.symm, (List.cons.inj hbeyond).2⟩
      | cons c beyond =>
        obtain ⟨rfl, hrest⟩ := List.cons.inj hbeyond
        obtain ⟨first, others, rfl, hbeyond, hothers⟩ := ih hrest
        refine ⟨piece ++ 10 :: first, others, by simp, ?_, hothers⟩
        rw [shown_append, hbeyond, hbefore]
    · cases beyond with
      | nil =>
        rw [List.append_nil] at hfirst
        exact ⟨piece, rest, rfl, hfirst, (List.cons.inj hbeyond).2.symm⟩
      | cons c beyond =>
        -- the line feed would be one that the first octets show
        obtain ⟨rfl, -⟩ := List.cons.inj hbeyond
        refine absurd ?_ (lineFeed_not_mem_shown hpiece)
        rw [hfirst]
        exact List.mem_append_right _ List.mem_cons_self

end WidgetForge.Text.Utf8

import Mathlib.Data.List.Basic
import WidgetForge.Text.Utf8

/-!
# What is written as UTF-8 is read back

Each character begins a piece of its own, whatever stands behind it, so the pieces of an encoded
text are its characters.
-/

namespace WidgetForge.Text.Utf8

/-! ### One piece -/

theorem isContinuation_of_toNat {b : UInt8} (low : 0x80 ≤ b.toNat) (high : b.toNat ≤ 0xbf) :
    isContinuation b = true := by
  simp only [isContinuation, Bool.and_eq_true, decide_eq_true_eq, UInt8.le_iff_toNat_le]
  exact ⟨low, high⟩

/-- Which octets may follow a lead octet, in numbers. -/
theorem mayFollow_of_toNat {a b : UInt8} (low : 0x80 ≤ b.toNat) (high : b.toNat ≤ 0xbf)
    (he0 : a.toNat = 0xe0 → 0xa0 ≤ b.toNat) (hed : a.toNat = 0xed → b.toNat ≤ 0x9f)
    (hf0 : a.toNat = 0xf0 → 0x90 ≤ b.toNat) (hf4 : a.toNat = 0xf4 → b.toNat ≤ 0x8f) :
    mayFollow a b = true := by
  unfold mayFollow
  split_ifs with h1 h2 h3 h4
  · subst h1
    simpa [UInt8.le_iff_toNat_le] using ⟨he0 rfl, high⟩
  · subst h2
    simpa [UInt8.le_iff_toNat_le] using ⟨low, hed rfl⟩
  · subst h3
    simpa [UInt8.le_iff_toNat_le] using ⟨hf0 rfl, high⟩
  · subst h4
    simpa [UInt8.le_iff_toNat_le] using ⟨low, hf4 rfl⟩
  · exact isContinuation_of_toNat low high

theorem next_one {a : UInt8} (ha : a.toNat < 0x80) (rest : Octets) :
    next a rest = (.char (Char.ofNat a.toNat), rest) := by
  have hlow : a < 0x80 := UInt8.lt_iff_toNat_lt.mpr ha
  simp [next, hlow]

theorem next_two {a b : UInt8} (ha : 0xc2 ≤ a.toNat ∧ a.toNat ≤ 0xdf)
    (hb : isContinuation b = true) (rest : Octets) :
    next a (b :: rest) = (.char (Char.ofNat ((a.toNat % 32) * 64 + low b)), rest) := by
  have h1 : ¬ a < 0x80 := by simp [UInt8.lt_iff_toNat_lt]; omega
  have h2 : 0xc2 ≤ a ∧ a ≤ 0xdf := by simpa [UInt8.le_iff_toNat_le] using ha
  simp [next, h1, h2, hb]

theorem next_three {a b c : UInt8} (ha : 0xe0 ≤ a.toNat ∧ a.toNat ≤ 0xef)
    (hb : mayFollow a b = true) (hc : isContinuation c = true) (rest : Octets) :
    next a (b :: c :: rest) =
      (.char (Char.ofNat (((a.toNat % 16) * 64 + low b) * 64 + low c)), rest) := by
  have h1 : ¬ a < 0x80 := by simp [UInt8.lt_iff_toNat_lt]; omega
  have h2 : ¬ (0xc2 ≤ a ∧ a ≤ 0xdf) := by simp [UInt8.le_iff_toNat_le]; omega
  have h3 : 0xe0 ≤ a ∧ a ≤ 0xef := by simpa [UInt8.le_iff_toNat_le] using ha
  simp [next, h1, h2, h3, hb, hc]

theorem next_four {a b c d : UInt8} (ha : 0xf0 ≤ a.toNat ∧ a.toNat ≤ 0xf4)
    (hb : mayFollow a b = true) (hc : isContinuation c = true) (hd : isContinuation d = true)
    (rest : Octets) :
    next a (b :: c :: d :: rest) =
      (.char (Char.ofNat ((((a.toNat % 8) * 64 + low b) * 64 + low c) * 64 + low d)), rest) := by
  have h1 : ¬ a < 0x80 := by simp [UInt8.lt_iff_toNat_lt]; omega
  have h2 : ¬ (0xc2 ≤ a ∧ a ≤ 0xdf) := by simp [UInt8.le_iff_toNat_le]; omega
  have h3 : ¬ (0xe0 ≤ a ∧ a ≤ 0xef) := by simp [UInt8.le_iff_toNat_le]; omega
  have h4 : 0xf0 ≤ a ∧ a ≤ 0xf4 := by simpa [UInt8.le_iff_toNat_le] using ha
  simp [next, h1, h2, h3, h4, hb, hc, hd]

/-! ### One character -/

theorem toNat_ofNat_of_lt {n : Nat} (h : n < 256) : (UInt8.ofNat n).toNat = n := by
  simpa using Nat.mod_eq_of_lt h

/-- A character is the first piece of its octets and what stands behind them. -/
theorem next_utf8EncodeChar (c : Char) :
    ∃ a more, String.utf8EncodeChar c = a :: more ∧
      ∀ rest, next a (more ++ rest) = (.char c, rest) := by
  have hvalid : c.val.toNat < 0xd800 ∨ (0xdfff < c.val.toNat ∧ c.val.toNat < 0x110000) := c.valid
  have hback {n : Nat} (h : n = c.val.toNat) : Char.ofNat n = c := by
    rw [h]
    exact Char.ofNat_toNat c
  generalize hv : c.val.toNat = v at hvalid hback
  unfold String.utf8EncodeChar
  simp only [hv]
  split_ifs with h1 h2 h3
  · refine ⟨_, _, rfl, fun rest => ?_⟩
    have ha := toNat_ofNat_of_lt (show v < 256 by omega)
    rw [List.nil_append, next_one (by omega), hback ha]
  · refine ⟨_, _, rfl, fun rest => ?_⟩
    have ha := toNat_ofNat_of_lt (show v / 64 % 32 + 192 < 256 by omega)
    have hb := toNat_ofNat_of_lt (show v % 64 + 128 < 256 by omega)
    rw [List.cons_append, List.nil_append, next_two (by omega)
      (isContinuation_of_toNat (by omega) (by omega)), hback (by rw [low, ha, hb]; omega)]
  · refine ⟨_, _, rfl, fun rest => ?_⟩
    have ha := toNat_ofNat_of_lt (show v / 4096 % 16 + 224 < 256 by omega)
    have hb := toNat_ofNat_of_lt (show v / 64 % 64 + 128 < 256 by omega)
    have hc := toNat_ofNat_of_lt (show v % 64 + 128 < 256 by omega)
    rw [List.cons_append, List.cons_append, List.nil_append, next_three (by omega)
      (mayFollow_of_toNat (by omega) (by omega) (by omega) (by omega) (by omega) (by omega))
      (isContinuation_of_toNat (by omega) (by omega)), hback (by rw [low, low, ha, hb, hc]; omega)]
  · refine ⟨_, _, rfl, fun rest => ?_⟩
    have ha := toNat_ofNat_of_lt (show v / 262144 % 8 + 240 < 256 by omega)
    have hb := toNat_ofNat_of_lt (show v / 4096 % 64 + 128 < 256 by omega)
    have hc := toNat_ofNat_of_lt (show v / 64 % 64 + 128 < 256 by omega)
    have hd := toNat_ofNat_of_lt (show v % 64 + 128 < 256 by omega)
    rw [List.cons_append, List.cons_append, List.cons_append, List.nil_append, next_four (by omega)
      (mayFollow_of_toNat (by omega) (by omega) (by omega) (by omega) (by omega) (by omega))
      (isContinuation_of_toNat (by omega) (by omega))
      (isContinuation_of_toNat (by omega) (by omega)),
      hback (by rw [low, low, low, ha, hb, hc, hd]; omega)]

/-! ### Texts -/

/-- The pieces of an encoded text are its characters. -/
theorem piecesUpTo_encodeChars (cs : List Char) {fuel : Nat}
    (hfuel : (encodeChars cs).length ≤ fuel) :
    piecesUpTo fuel (encodeChars cs) = cs.map .char := by
  induction cs generalizing fuel with
  | nil => cases fuel <;> rfl
  | cons c cs ih =>
    obtain ⟨a, more, hc, hnext⟩ := next_utf8EncodeChar c
    have hsplit : encodeChars (c :: cs) = a :: (more ++ encodeChars cs) := by
      simp [encodeChars, hc]
    rw [hsplit] at hfuel ⊢
    simp only [List.length_cons, List.length_append] at hfuel
    cases fuel with
    | zero => omega
    | succ fuel =>
      rw [piecesUpTo]
      simp only [hnext, List.map_cons]
      rw [ih (by omega)]

theorem strict_map_char (index : Nat) (cs : List Char) :
    strict index (cs.map .char) = .ok cs := by
  induction cs generalizing index with
  | nil => rfl
  | cons c cs ih => simp [strict, ih, Except.map]

/-- **A text that is encoded decodes to itself.** -/
theorem decode_encode (s : String) : decode (encode s) = .ok s := by
  have hpieces : pieces (encode s) = s.toList.map .char :=
    piecesUpTo_encodeChars s.toList (Nat.le_refl _)
  rw [decode, hpieces, strict_map_char]
  simp [Except.map]

/-- Nothing of it is lost where octets are read leniently. -/
theorem decodeLossy_encode (s : String) : decodeLossy (encode s) = s := by
  have hpieces : pieces (encode s) = s.toList.map .char :=
    piecesUpTo_encodeChars s.toList (Nat.le_refl _)
  rw [decodeLossy, hpieces, List.map_map]
  exact (congrArg String.ofList (List.map_id _)).trans String.ofList_toList

/-! ### Line feeds -/

theorem ne_ten_of_toNat {n : Nat} (h : n < 256) (hn : n ≠ 10) : (10 : UInt8) ≠ UInt8.ofNat n := by
  intro heq
  have hback := congrArg UInt8.toNat heq
  rw [toNat_ofNat_of_lt h] at hback
  exact hn hback.symm

/-- Only a line feed has the octet of a line feed. -/
theorem ten_not_mem_utf8EncodeChar {c : Char} (hc : c ≠ '\n') : 10 ∉ String.utf8EncodeChar c := by
  have hne : c.val.toNat ≠ 10 := by
    intro h
    rw [← Char.ofNat_toNat c] at hc
    exact hc (congrArg Char.ofNat h)
  unfold String.utf8EncodeChar
  generalize c.val.toNat = v at hne
  dsimp only
  split_ifs with h1 h2 h3
  · simpa using ne_ten_of_toNat (show v < 256 by omega) hne
  · have ha := ne_ten_of_toNat (show v / 64 % 32 + 192 < 256 by omega) (by omega)
    have hb := ne_ten_of_toNat (show v % 64 + 128 < 256 by omega) (by omega)
    simp only [List.mem_cons, ha, hb, List.not_mem_nil, or_self, not_false_eq_true]
  · have ha := ne_ten_of_toNat (show v / 4096 % 16 + 224 < 256 by omega) (by omega)
    have hb := ne_ten_of_toNat (show v / 64 % 64 + 128 < 256 by omega) (by omega)
    have hd := ne_ten_of_toNat (show v % 64 + 128 < 256 by omega) (by omega)
    simp only [List.mem_cons, ha, hb, hd, List.not_mem_nil, or_self, not_false_eq_true]
  · have ha := ne_ten_of_toNat (show v / 262144 % 8 + 240 < 256 by omega) (by omega)
    have hb := ne_ten_of_toNat (show v / 4096 % 64 + 128 < 256 by omega) (by omega)
    have hd := ne_ten_of_toNat (show v / 64 % 64 + 128 < 256 by omega) (by omega)
    have he := ne_ten_of_toNat (show v % 64 + 128 < 256 by omega) (by omega)
    simp only [List.mem_cons, ha, hb, hd, he, List.not_mem_nil, or_self, not_false_eq_true]

/-- A text without line feeds is encoded without them. -/
theorem ten_not_mem_encodeChars {cs : List Char} (h : '\n' ∉ cs) : 10 ∉ encodeChars cs := by
  rw [encodeChars, List.mem_flatMap]
  rintro ⟨c, hc, hten⟩
  exact ten_not_mem_utf8EncodeChar (fun heq => h (heq ▸ hc)) hten

/-- A text with a line feed at its end only is encoded as one line. -/
theorem encode_line {text : String} {body : List Char} (hbody : '\n' ∉ body)
    (h : text.toList = body ++ ['\n']) : ∃ octets, 10 ∉ octets ∧ encode text = octets ++ [10] := by
  have hten : encodeChars ['\n'] = [10] := by decide
  refine ⟨encodeChars body, ten_not_mem_encodeChars hbody, ?_⟩
  rw [encode, h, encodeChars, List.flatMap_append, ← encodeChars, ← encodeChars, hten]

end WidgetForge.Text.Utf8

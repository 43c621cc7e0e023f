import WidgetForge.Proofs.Json.Values

/-!
# What is written stands on one line

The compact form of a value holds no control character, and so neither a line feed nor a carriage
return: in strings they are escaped, and nothing else that is written is a blank.
-/

namespace WidgetForge.Json

variable {c : Char}

theorem control_ne_digit (hc : c.toNat < 32) {n : Nat} (h : n < 16) :
    c ≠ Text.Hexadecimal.digit n := by
  have hall : ∀ n < 16, 32 ≤ (Text.Hexadecimal.digit n).toNat := by decide
  rintro rfl
  exact absurd hc (Nat.not_lt.mpr (hall n h))

theorem control_not_mem_of_all (hc : c.toNat < 32) {cs : List Char}
    (h : (cs.all fun d => 32 ≤ d.toNat) = true) : c ∉ cs :=
  fun hmem => absurd hc (Nat.not_lt.mpr (of_decide_eq_true (List.all_eq_true.mp h c hmem)))

theorem control_not_mem_escapedChar (hc : c.toNat < 32) (d : Char) : c ∉ escapedChar d := by
  unfold escapedChar
  split_ifs with quote backslash feed ret tab back form control
  · exact control_not_mem_of_all hc rfl
  · exact control_not_mem_of_all hc rfl
  · exact control_not_mem_of_all hc rfl
  · exact control_not_mem_of_all hc rfl
  · exact control_not_mem_of_all hc rfl
  · exact control_not_mem_of_all hc rfl
  · exact control_not_mem_of_all hc rfl
  · have hhigh := control_ne_digit hc (show d.toNat / 16 < 16 by omega)
    have hlow := control_ne_digit hc (show d.toNat % 16 < 16 by omega)
    have hstart : c ∉ ['\\', 'u', '0', '0'] := control_not_mem_of_all hc rfl
    simpa [hhigh, hlow] using hstart
  · rintro hmem
    obtain rfl := List.mem_singleton.mp hmem
    exact control hc

theorem control_not_mem_writeString (hc : c.toNat < 32) (s : String) : c ∉ writeString s := by
  have hquote : c ∉ ['"'] := control_not_mem_of_all hc rfl
  simpa [writeString, control_not_mem_escapedChar hc] using hquote

theorem control_not_mem_later (hc : c.toNat < 32) {α : Type} {text : α → List Char} {all : List α}
    (h : ∀ a ∈ all, c ∉ text a) : c ∉ later text all := by
  rw [later, List.mem_flatMap]
  rintro ⟨a, ha, hmem⟩
  have hcomma : c ∉ [','] := control_not_mem_of_all hc rfl
  exact h a ha (List.mem_of_ne_of_mem (List.ne_of_not_mem_cons hcomma) hmem)

theorem control_not_mem_memberTexts (hc : c.toNat < 32) {all : List Member}
    (h : ∀ m ∈ all, c ∉ m.2) : c ∉ memberTexts all := by
  have hcolon : c ∉ [':'] := control_not_mem_of_all hc rfl
  have htext : ∀ m ∈ all, c ∉ memberText m := by
    intro m hm
    simpa [memberText, control_not_mem_writeString hc, h m hm] using hcolon
  cases all with
  | nil => exact List.not_mem_nil
  | cons m all =>
    rw [memberTexts, List.mem_append, not_or]
    exact ⟨htext m List.mem_cons_self,
      control_not_mem_later hc fun n hn => htext n (List.mem_cons_of_mem m hn)⟩

theorem control_not_mem_writeItems (hc : c.toNat < 32) {all : List Value}
    (h : ∀ v ∈ all, c ∉ v.write) : c ∉ writeItems all := by
  cases all with
  | nil => exact List.not_mem_nil
  | cons v all =>
    rw [writeItems_cons, List.mem_append, not_or]
    exact ⟨h v List.mem_cons_self,
      control_not_mem_later hc fun w hw => h w (List.mem_cons_of_mem v hw)⟩

theorem control_not_mem_write_of_isScalar (hc : c.toNat < 32) {v : Value} (h : v.IsScalar) :
    c ∉ v.write := by
  match v, h with
  | .null, _ => exact control_not_mem_of_all hc rfl
  | .bool true, _ => exact control_not_mem_of_all hc rfl
  | .bool false, _ => exact control_not_mem_of_all hc rfl
  | .number (.integer i _), _ => exact control_not_mem_toString hc i
  | .string s, _ => exact control_not_mem_writeString hc s

/-- **A value without doubles is written without control characters.** -/
theorem control_not_mem_write (hc : c.toNat < 32) {depth : Nat} {v : Value} (h : v.Plain depth) :
    c ∉ v.write := by
  induction depth generalizing v with
  | zero => exact control_not_mem_write_of_isScalar hc h
  | succ depth ih =>
    match v, h with
    | .array all, h =>
      have hitems := control_not_mem_writeItems hc fun v hv => ih (h v hv)
      have hbrackets : c ∉ ['[', ']'] := control_not_mem_of_all hc rfl
      simpa [Value.write, hitems] using hbrackets
    | .object all, h =>
      have hmembers : c ∉ writeMembers all := by
        rw [writeMembers_eq]
        refine control_not_mem_memberTexts hc fun m hm => ?_
        obtain ⟨n, hn, rfl⟩ := List.mem_map.mp hm
        exact ih (h n hn)
      have hbrackets : c ∉ ['\x7b', '\x7d'] := control_not_mem_of_all hc rfl
      simpa [Value.write, hmembers] using hbrackets
    | .null, h | .bool _, h | .number _, h | .string _, h =>
      exact control_not_mem_write_of_isScalar hc h

end WidgetForge.Json

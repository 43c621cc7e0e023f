import WidgetForge.Disk.IoError
import WidgetForge.Proofs.Json.Numbers

/-!
# Texts without line breaks

A line ends at a line feed, and a carriage return sends a terminal back to the start of the line. A
text with neither is one line wherever it is put. What quotes a foreign text writes both by their
short forms, so it gives one line for every text; the wordings of the operating system are one line
each.
-/

namespace WidgetForge

namespace Text

/-- A text without line breaks. -/
def OneLine (s : String) : Prop := '\n' ∉ s.toList ∧ '\r' ∉ s.toList

instance : DecidablePred OneLine := fun _ => inferInstanceAs (Decidable (_ ∧ _))

/-- The octets of a text show its line breaks. A literal is its octets, so they are quick to look
through. -/
theorem oneLine_of_octets {s : String}
    (h : s.toByteArray.data.toList.all (fun b => b != 10 && b != 13) = true) : OneLine s := by
  have hoctets {c : Char} (hc : c ∈ s.toList) {b : UInt8} (hb : b ∈ String.utf8EncodeChar c) :
      (b != 10 && b != 13) = true := by
    refine List.all_eq_true.mp h b ?_
    rw [← String.utf8Encode_toList, List.utf8Encode]
    simpa using ⟨c, hc, hb⟩
  constructor
  · intro hfeed
    exact absurd (hoctets hfeed (b := 10) (by decide)) (by decide)
  · intro hreturn
    exact absurd (hoctets hreturn (b := 13) (by decide)) (by decide)

/-- Texts that are put one behind the other have the line breaks of both. -/
@[simp]
theorem oneLine_append {s t : String} : OneLine (s ++ t) ↔ OneLine s ∧ OneLine t := by
  simp only [OneLine, String.toList_append, List.mem_append, not_or]
  exact and_and_and_comm

theorem oneLine_join {all : List String} (h : ∀ s ∈ all, OneLine s) :
    OneLine (String.join all) := by
  induction all with
  | nil => decide
  | cons s all ih =>
    rw [String.join_cons, oneLine_append]
    exact ⟨h s List.mem_cons_self, ih fun t ht => h t (List.mem_cons_of_mem s ht)⟩

theorem oneLine_toString (i : Int) : OneLine (toString i) :=
  ⟨Json.control_not_mem_toString (by decide) i, Json.control_not_mem_toString (by decide) i⟩

theorem oneLine_hexadecimal (n : Nat) : OneLine (Hexadecimal.digits n) := by
  have hdigit : ∀ d < 16, OneLine (String.ofList [d.digitChar]) := by decide
  rw [Hexadecimal.digits]
  induction n using Nat.strongRecOn with
  | ind n ih =>
    by_cases hsmall : n < 16
    · rw [Nat.toDigits_of_lt_base hsmall]
      exact hdigit n hsmall
    · rw [Nat.toDigits_of_base_le (by decide) (Nat.not_lt.mp hsmall), String.ofList_append,
        oneLine_append]
      exact ⟨ih (n / 16) (by omega), hdigit (n % 16) (Nat.mod_lt n (by decide))⟩

theorem oneLine_quotedChar (c : Char) : OneLine (quotedChar c) := by
  unfold quotedChar
  split_ifs with quote backslash tab feed ret nul concealed
  · decide
  · decide
  · decide
  · decide
  · decide
  · decide
  · simp only [oneLine_append]
    exact ⟨⟨by decide, oneLine_hexadecimal _⟩, by decide⟩
  · simpa [OneLine, eq_comm] using And.intro feed ret

/-- **A quoted text is one line**, whatever the text is. -/
theorem oneLine_quoted (s : String) : OneLine (quoted s) := by
  have hall : OneLine (String.join (s.toList.map quotedChar)) := by
    refine oneLine_join fun t ht => ?_
    obtain ⟨c, -, rfl⟩ := List.mem_map.mp ht
    exact oneLine_quotedChar c
  simp only [quoted, oneLine_append]
  exact ⟨⟨by decide, hall⟩, by decide⟩

end Text

namespace Disk

open Text

/-- The wording of an error of the operating system is one line, for known and unknown numbers. -/
theorem OsError.oneLine_message (e : OsError) : OneLine e.message := by
  have hoctets : ∀ entry ∈ wordings,
      entry.2.toByteArray.data.toList.all (fun b => b != 10 && b != 13) = true := by decide +kernel
  have hknown : ∀ entry ∈ wordings, OneLine entry.2 :=
    fun entry hentry => oneLine_of_octets (hoctets entry hentry)
  have hwording : OneLine e.wording := by
    unfold wording
    cases hlookup : wordings.lookup e.number with
    | some text =>
      obtain ⟨before, after, hsplit, -⟩ := List.lookup_eq_some_iff.mp hlookup
      exact hknown (e.number, text) (by simp [hsplit])
    | none =>
      simp only [oneLine_append]
      exact ⟨by decide, oneLine_toString _⟩
  simp only [message, oneLine_append]
  exact ⟨⟨⟨hwording, by decide⟩, oneLine_toString _⟩, by decide⟩

end Disk

end WidgetForge

import Mathlib.Data.List.Infix
import Mathlib.Logic.Function.Basic
import WidgetForge.Operator.Command

/-!
# Putting a prompt into an argument

An argument of a command names parts of the prompt. To fill it is to read it once from left to right
and to put each part where it is named (`fill`); what has been put in is not read. `expand` replaces
the name first, then the extension in the text that this gives, and the folder last, so it reads
again what it has put in. Both give the same unless a text that has been put in takes part in a mark
that is replaced later, alone or together with the text around it (`Settled`).
-/

namespace WidgetForge.Operator.Command

open Text

/-! ### Filling in one pass -/

/-- A part of a prompt that an argument can name. -/
inductive Part where
  /-- The name that the file would have. -/
  | name
  /-- The extension of that name. -/
  | extension
  /-- The folder where the file was to be saved. -/
  | folder
  deriving DecidableEq

namespace Part

/-- How an argument names a part. -/
def mark : Part → List Char
  | .name => "\x7bname\x7d".toList
  | .extension => "\x7bext\x7d".toList
  | .folder => "\x7bdir\x7d".toList

/-- What a part is in a prompt. -/
def value (p : Prompt) : Part → List Char
  | .name => p.name.toList
  | .extension => p.extension.toList
  | .folder => (folderText p).toList

end Part

/-- A piece of an argument. -/
inductive Piece where
  /-- A character that stands for itself. -/
  | char (c : Char)
  /-- A place where a part of the prompt is named. -/
  | place (part : Part)
  deriving DecidableEq

/-- The text of a piece, if this is what stands for the parts. -/
def Piece.written (v : Part → List Char) : Piece → List Char
  | .char c => [c]
  | .place part => v part

/-- The text of some pieces. -/
def written (v : Part → List Char) (pieces : List Piece) : List Char :=
  pieces.flatMap (Piece.written v)

/-- The pieces of an argument, in one pass from left to right. The first `skip` characters belong to
a mark already read. -/
def piecesFrom (skip : Nat) : List Char → List Piece
  | [] => []
  | c :: rest =>
    match skip with
    | skip + 1 => piecesFrom skip rest
    | 0 =>
      match [Part.name, .extension, .folder].find? fun part => part.mark.isPrefixOf (c :: rest) with
      | some part => .place part :: piecesFrom (part.mark.length - 1) rest
      | none => .char c :: piecesFrom 0 rest

/-- The pieces of an argument. -/
def pieces (argument : String) : List Piece := piecesFrom 0 argument.toList

/-- An argument with all parts of the prompt put in at once. -/
def fill (p : Prompt) (argument : String) : String :=
  String.ofList (written (Part.value p) (pieces argument))

/-! ### Marks -/

section

variable {part part' : Part} {rest : List Char}

/-- A mark opens with a brace, and has no other opening brace. -/
theorem mark_eq (part : Part) : ∃ others, part.mark = '\x7b' :: others ∧ '\x7b' ∉ others := by
  cases part with
  | name => exact ⟨_, rfl, by decide⟩
  | extension => exact ⟨_, rfl, by decide⟩
  | folder => exact ⟨_, rfl, by decide⟩

/-- The letter behind the opening brace. -/
def Part.initial : Part → Char
  | .name => 'n'
  | .extension => 'e'
  | .folder => 'd'

theorem getElem?_mark (part : Part) (rest : List Char) :
    (part.mark ++ rest)[1]? = some part.initial := by
  cases part <;> rfl

theorem initial_injective (h : part.initial = part'.initial) : part = part' := by
  cases part <;> cases part' <;> first | rfl | exact absurd h (by decide)

/-- No mark is the beginning of another one: marks differ in the letter behind the brace. -/
theorem eq_of_begins (h : part.mark <+: part'.mark ++ rest) : part = part' := by
  obtain ⟨back, hback⟩ := h
  have hletter : (part.mark ++ back)[1]? = (part'.mark ++ rest)[1]? := by rw [hback]
  rw [getElem?_mark, getElem?_mark] at hletter
  exact initial_injective (Option.some.inj hletter)

end

/-! ### Reading an argument -/

/-- `Reads text pieces`: the text is made of these pieces, and no mark begins where a character
stands for itself. -/
inductive Reads : List Char → List Piece → Prop where
  /-- An empty text has no pieces. -/
  | nil : Reads [] []
  /-- A mark is read as the part that it names. -/
  | place {part : Part} {rest : List Char} {ps : List Piece} :
      Reads rest ps → Reads (part.mark ++ rest) (.place part :: ps)
  /-- Where no mark begins, a character is read as itself. -/
  | char {c : Char} {rest : List Char} {ps : List Piece} :
      (∀ part : Part, ¬ part.mark <+: c :: rest) → Reads rest ps → Reads (c :: rest) (.char c :: ps)

section

variable {v : Part → List Char} {part : Part} {ps front back : List Piece} {text : List Char}
  {c : Char}

@[simp]
theorem written_nil (v : Part → List Char) : written v [] = [] := rfl

@[simp]
theorem written_cons (v : Part → List Char) (piece : Piece) (ps : List Piece) :
    written v (piece :: ps) = piece.written v ++ written v ps := rfl

@[simp]
theorem written_append (v : Part → List Char) (ps qs : List Piece) :
    written v (ps ++ qs) = written v ps ++ written v qs :=
  List.flatMap_append

theorem reads_piecesFrom (skip : Nat) (text : List Char) :
    Reads (text.drop skip) (piecesFrom skip text) := by
  induction text generalizing skip with
  | nil =>
    rw [List.drop_nil]
    exact .nil
  | cons c rest ih =>
    cases skip with
    | succ skip => exact ih skip
    | zero =>
      rw [List.drop_zero, piecesFrom]
      split
      · rename_i part hfound
        have hmark := List.find?_some hfound
        obtain ⟨behind, hbehind⟩ := List.isPrefixOf_iff_prefix.mp hmark
        obtain ⟨others, hothers, -⟩ := mark_eq part
        rw [hothers, List.cons_append] at hbehind
        obtain ⟨rfl, rfl⟩ := List.cons.inj hbehind
        have hrest := ih (part.mark.length - 1)
        rw [hothers, List.length_cons, Nat.add_sub_cancel, List.drop_left] at hrest
        have hread : Reads (part.mark ++ behind) _ := .place hrest
        rwa [hothers] at hread ⊢
      · rename_i hnone
        refine .char (fun part hmark => ?_) (ih 0)
        have hpart : part ∈ [Part.name, .extension, .folder] := by cases part <;> simp
        exact List.find?_eq_none.mp hnone part hpart (List.isPrefixOf_iff_prefix.mpr hmark)

/-- A text is what its pieces write if the marks stand for the parts. -/
theorem Reads.written_mark (h : Reads text ps) : written Part.mark ps = text := by
  induction h with
  | nil => rfl
  | place _ ih => rw [written_cons, ih]; rfl
  | char _ _ ih => rw [written_cons, ih]; rfl

/-- No mark begins where a character stands for itself. -/
theorem Reads.not_begins (h : Reads text (front ++ .char c :: back)) (part : Part) :
    ¬ part.mark <+: c :: written Part.mark back := by
  induction front generalizing text with
  | nil =>
    cases h with
    | char hnone hrest =>
      rw [hrest.written_mark]
      exact hnone part
  | cons piece front ih =>
    cases h with
    | place hrest => exact ih hrest
    | char _ hrest => exact ih hrest

end

/-! ### Replacing one mark -/

section

variable {old new s rest : List Char}

theorem replaceFrom_pass (old new s rest : List Char) :
    replaceFrom old new s.length (s ++ rest) = replaceFrom old new 0 rest := by
  induction s with
  | nil => rfl
  | cons c s ih => exact ih

/-- An occurrence gives way to the new text. -/
theorem replaceFrom_self (hold : old ≠ []) (new rest : List Char) :
    replaceFrom old new 0 (old ++ rest) = new ++ replaceFrom old new 0 rest := by
  obtain ⟨c, others, rfl⟩ := List.exists_cons_of_ne_nil hold
  have hstarts : (c :: others).isPrefixOf (c :: (others ++ rest)) = true :=
    List.isPrefixOf_iff_prefix.mpr (List.prefix_append (c :: others) rest)
  rw [List.cons_append, replaceFrom, if_pos hstarts, List.length_cons, Nat.add_sub_cancel,
    replaceFrom_pass]

/-- Where no occurrence begins, the text stays. -/
theorem replaceFrom_stay (h : ∀ k < s.length, ¬ old <+: s.drop k ++ rest) :
    replaceFrom old new 0 (s ++ rest) = s ++ replaceFrom old new 0 rest := by
  induction s with
  | nil => rfl
  | cons c s ih =>
    have hnot : ¬ old.isPrefixOf (c :: (s ++ rest)) = true :=
      mt List.isPrefixOf_iff_prefix.mp (h 0 (Nat.succ_pos _))
    have hlater : ∀ k < s.length, ¬ old <+: s.drop k ++ rest := fun k hk =>
      h (k + 1) (Nat.succ_lt_succ hk)
    rw [List.cons_append, replaceFrom, if_neg hnot, ih hlater, List.cons_append]

end

/-- The mark of a part begins nowhere in the text of some pieces but where it is a piece. -/
def Clear (v : Part → List Char) (part : Part) (ps : List Piece) : Prop :=
  ∀ front piece back, ps = front ++ piece :: back → piece ≠ .place part →
    ∀ k < (piece.written v).length, ¬ part.mark <+: (piece.written v).drop k ++ written v back

/-- To replace a clear mark is to put the part where it is named. -/
theorem replaceFrom_written {v : Part → List Char} {part : Part} (hv : v part = part.mark)
    {ps : List Piece} (h : Clear v part ps) (new : List Char) :
    replaceFrom part.mark new 0 (written v ps) = written (Function.update v part new) ps := by
  induction ps with
  | nil => rfl
  | cons piece ps ih =>
    have hrest := ih fun front piece' back hps => h (piece :: front) piece' back (by rw [hps]; rfl)
    rw [written_cons, written_cons]
    by_cases hpiece : piece = .place part
    · obtain ⟨others, hmark, -⟩ := mark_eq part
      have hne : part.mark ≠ [] := by simp [hmark]
      have hold : piece.written v = part.mark := by rw [hpiece, Piece.written, hv]
      have hnew : piece.written (Function.update v part new) = new := by
        rw [hpiece, Piece.written, Function.update_self]
      rw [hold, hnew, replaceFrom_self hne, hrest]
    · have hsame : piece.written (Function.update v part new) = piece.written v := by
        cases piece with
        | char c => rfl
        | place other =>
          exact Function.update_of_ne (fun heq => hpiece (congrArg Piece.place heq)) _ _
      rw [hsame, replaceFrom_stay (h [] piece ps rfl hpiece), hrest]

/-! ### Texts that take part in a mark -/

/-- Between the texts `before` and `behind`, the text `value` takes part in the mark: it stands
there so that it begins before the end of `value` and ends behind its beginning. -/
def TakesPart (mark before value behind : List Char) : Prop :=
  ∃ front back, before ++ value ++ behind = front ++ mark ++ back ∧
    front.length < before.length + value.length ∧ before.length < front.length + mark.length

/-- What stands for the part `source` takes part, at some place where it stands, in the mark of the
part `part`. -/
def Taken (v : Part → List Char) (part source : Part) (ps : List Piece) : Prop :=
  ∃ before behind, ps = before ++ .place source :: behind ∧
    TakesPart part.mark (written v before) (v source) (written v behind)

/-- Pieces begin with characters that stand for themselves, up to the first place. -/
theorem exists_chars (ps : List Piece) : ∃ cs back, ps = List.map Piece.char cs ++ back ∧
    (back = [] ∨ ∃ part back', back = .place part :: back') := by
  induction ps with
  | nil => exact ⟨[], [], rfl, Or.inl rfl⟩
  | cons piece ps ih =>
    cases piece with
    | char c =>
      obtain ⟨cs, back, hps, hback⟩ := ih
      exact ⟨c :: cs, back, by rw [hps]; rfl, hback⟩
    | place part => exact ⟨[], _, rfl, Or.inr ⟨part, ps, rfl⟩⟩

theorem written_chars (v : Part → List Char) (cs : List Char) :
    written v (cs.map Piece.char) = cs := by
  induction cs with
  | nil => rfl
  | cons c cs ih => rw [List.map_cons, written_cons, ih]; rfl

/-- A mark that does not lie inside a text has its opening brace only at the front. -/
theorem not_begins_of_brace {part : Part} {s rest : List Char} (hs : s ≠ [])
    (hlong : s.length < part.mark.length) : ¬ part.mark <+: s ++ '\x7b' :: rest := by
  obtain ⟨c, s, rfl⟩ := List.exists_cons_of_ne_nil hs
  obtain ⟨others, hmark, hothers⟩ := mark_eq part
  rw [hmark] at hlong ⊢
  rintro ⟨behind, hbehind⟩
  have htail : others ++ behind = s ++ '\x7b' :: rest := (List.cons.inj hbehind).2
  have hlt : s.length < others.length := by simpa using hlong
  have hat : (others ++ behind)[s.length]? = some '\x7b' := by
    rw [htail, List.getElem?_append_right (Nat.le_refl _), Nat.sub_self, List.getElem?_cons_zero]
  rw [List.getElem?_append_left hlt] at hat
  exact hothers (List.mem_of_getElem? hat)

section

variable {v : Part → List Char} {part : Part} {ps : List Piece} {text : List Char}

/-- A mark begins nowhere in what stands for another part, if this is the mark of that part or takes
no part. -/
theorem not_begins_place {source : Part} {front back : List Piece}
    (hps : ps = front ++ .place source :: back) (hsource : source ≠ part)
    (hv : v source = source.mark ∨ ¬ Taken v part source ps) {k : Nat}
    (hk : k < (v source).length) : ¬ part.mark <+: (v source).drop k ++ written v back := by
  intro hmark
  rcases hv with hv | hv
  · obtain ⟨others, hopen, hothers⟩ := mark_eq source
    cases k with
    | zero =>
      rw [hv, List.drop_zero] at hmark
      exact hsource (eq_of_begins hmark).symm
    | succ k =>
      -- behind its first character a mark has no opening brace
      obtain ⟨others', hopen', -⟩ := mark_eq part
      rw [hv, hopen, List.drop_succ_cons] at hmark
      rw [hv, hopen, List.length_cons] at hk
      obtain ⟨c, rest, hrest⟩ := List.exists_cons_of_ne_nil
        (List.ne_nil_of_length_pos (show 0 < (others.drop k).length by simp; omega))
      rw [hrest, hopen', List.cons_append] at hmark
      have hc : c ∈ others := List.mem_of_mem_drop (hrest ▸ List.mem_cons_self)
      exact hothers ((List.cons_prefix_cons.mp hmark).1 ▸ hc)
  · obtain ⟨rest, hrest⟩ := hmark
    obtain ⟨others, hopen, -⟩ := mark_eq part
    refine hv ⟨front, back, hps, written v front ++ (v source).take k, rest, ?_, ?_, ?_⟩
    · rw [List.append_assoc, List.append_assoc, List.append_assoc, hrest,
        ← List.append_assoc (List.take k _), List.take_append_drop]
    · rw [List.length_append, List.length_take]
      omega
    · rw [List.length_append, List.length_take, hopen, List.length_cons]
      omega

/-- A mark begins at no character that stands for itself, unless a text that has been put in behind
it takes part. -/
theorem not_begins_char (hread : Reads text ps) {front back : List Piece} {c : Char}
    (hps : ps = front ++ .char c :: back)
    (hv : ∀ source, v source = source.mark ∨ ¬ Taken v part source ps) :
    ¬ part.mark <+: c :: written v back := by
  intro hmark
  obtain ⟨cs, back', rfl, hback⟩ := exists_chars back
  rw [written_append, written_chars] at hmark
  have hnot := Reads.not_begins (hps ▸ hread) part
  rw [written_append, written_chars] at hnot
  -- the mark does not lie inside the characters, for there it would have been read
  have hlong : (c :: cs).length < part.mark.length := by
    by_contra hle
    have hinside : part.mark <+: c :: cs :=
      List.prefix_of_prefix_length_le hmark (List.prefix_append (c :: cs) _) (Nat.not_lt.mp hle)
    exact hnot (hinside.trans (List.prefix_append (c :: cs) _))
  rcases hback with rfl | ⟨source, back', rfl⟩
  · rw [written_nil, List.append_nil] at hmark
    exact absurd hmark.length_le (Nat.not_le.mpr hlong)
  · rcases hv source with hv | hv
    · obtain ⟨others, hopen, -⟩ := mark_eq source
      rw [written_cons, Piece.written, hv, hopen, List.cons_append] at hmark
      exact not_begins_of_brace (List.cons_ne_nil c cs) hlong hmark
    · obtain ⟨rest, hrest⟩ := hmark
      have hbefore : written v (front ++ .char c :: cs.map Piece.char) =
          written v front ++ c :: cs := by
        rw [written_append, written_cons, written_chars]
        rfl
      refine hv ⟨front ++ .char c :: cs.map Piece.char, back', ?_, written v front, rest, ?_, ?_,
        ?_⟩
      · rw [hps, List.append_assoc]
        rfl
      · rw [hbefore, List.append_assoc _ part.mark, hrest]
        simp [Piece.written]
      · rw [hbefore, List.length_append, List.length_cons]
        omega
      · rw [hbefore, List.length_append]
        omega

/-- A mark is clear if the other parts are marked or what stands for them takes no part in it. -/
theorem Reads.clear (hread : Reads text ps)
    (hv : ∀ source, v source = source.mark ∨ ¬ Taken v part source ps) : Clear v part ps := by
  intro front piece back hps hpiece k hk
  cases piece with
  | char c =>
    obtain rfl : k = 0 := Nat.lt_one_iff.mp hk
    exact not_begins_char hread hps hv
  | place source =>
    have hsource : source ≠ part := fun heq => hpiece (congrArg Piece.place heq)
    exact not_begins_place hps hsource (hv source) hk

end

/-! ### Replacing one after the other -/

/-- What stands for the parts once some of them have been put in. -/
def filled (p : Prompt) (done : List Part) (part : Part) : List Char :=
  if part ∈ done then part.value p else part.mark

theorem filled_cons (p : Prompt) (part : Part) (done : List Part) :
    Function.update (filled p done) part (part.value p) = filled p (part :: done) := by
  funext other
  by_cases h : other = part
  · subst h
    simp [filled]
  · simp [filled, h]

/-- No text that has been put in takes part in a mark that is replaced later, alone or together with
the text around it. -/
structure Settled (p : Prompt) (argument : String) : Prop where
  /-- The name takes no part in a mark of the extension. -/
  name_extension : ¬ Taken (filled p [.name]) .extension .name (pieces argument)
  /-- The name takes no part in a mark of the folder. -/
  name_folder : ¬ Taken (filled p [.extension, .name]) .folder .name (pieces argument)
  /-- The extension takes no part in a mark of the folder. -/
  extension_folder : ¬ Taken (filled p [.extension, .name]) .folder .extension (pieces argument)

/-- To replace the mark of the next part is to put this part in. -/
theorem replaceFrom_filled {p : Prompt} {done : List Part} {part : Part} (hnew : part ∉ done)
    {text : List Char} {ps : List Piece} (hread : Reads text ps)
    (h : ∀ source ∈ done, ¬ Taken (filled p done) part source ps) :
    replaceFrom part.mark (part.value p) 0 (written (filled p done) ps) =
      written (filled p (part :: done)) ps := by
  have hmark {source : Part} (hsource : source ∉ done) : filled p done source = source.mark :=
    if_neg hsource
  have hclear : Clear (filled p done) part ps := hread.clear fun source => by
    by_cases hsource : source ∈ done
    · exact Or.inr (h source hsource)
    · exact Or.inl (hmark hsource)
  rw [replaceFrom_written (hmark hnew) hclear, filled_cons]

/-! ### Texts without opening braces -/

section

variable {p : Prompt} {done : List Part} {part source : Part} {ps : List Piece}

/-- If no character and no text that has been put in is an opening brace, then an opening brace
begins a mark of a part that has not been put in. -/
theorem exists_place_of_brace (hdone : ∀ source ∈ done, '\x7b' ∉ source.value p)
    (hps : .char '\x7b' ∉ ps) {place : Nat}
    (h : (written (filled p done) ps)[place]? = some '\x7b') :
    ∃ before part behind, ps = before ++ .place part :: behind ∧ part ∉ done ∧
      (written (filled p done) before).length = place := by
  induction ps generalizing place with
  | nil => exact absurd h (by simp)
  | cons piece ps ih =>
    obtain ⟨hpiece, hrest⟩ := not_or.mp (mt List.mem_cons.mpr hps)
    rw [written_cons] at h
    rcases Nat.lt_or_ge place (piece.written (filled p done)).length with hlt | hge
    · rw [List.getElem?_append_left hlt] at h
      cases piece with
      | char c =>
        have hc : '\x7b' = c := List.mem_singleton.mp (List.mem_of_getElem? h)
        exact absurd (congrArg Piece.char hc) hpiece
      | place part =>
        have hpart : part ∉ done := by
          intro hpart
          rw [Piece.written, filled, if_pos hpart] at h
          exact hdone part hpart (List.mem_of_getElem? h)
        obtain ⟨others, hopen, hothers⟩ := mark_eq part
        rw [Piece.written, filled, if_neg hpart, hopen] at h
        cases place with
        | zero => exact ⟨[], part, ps, rfl, hpart, rfl⟩
        | succ place =>
          rw [List.getElem?_cons_succ] at h
          exact absurd (List.mem_of_getElem? h) hothers
    · rw [List.getElem?_append_right hge] at h
      obtain ⟨before, part, behind, rfl, hpart, hbefore⟩ := ih hrest h
      refine ⟨piece :: before, part, behind, rfl, hpart, ?_⟩
      rw [written_cons, List.length_append, hbefore]
      omega

/-- Texts without opening braces take part in no mark. -/
theorem not_taken_of_no_brace (hdone : ∀ source ∈ done, '\x7b' ∉ source.value p)
    (hps : .char '\x7b' ∉ ps) (hsource : source ∈ done) :
    ¬ Taken (filled p done) part source ps := by
  rintro ⟨before, behind, rfl, front, back, htext, hbegins, hends⟩
  have hbefore : .char '\x7b' ∉ before := fun h => hps (List.mem_append_left _ h)
  have hvalue : filled p done source = source.value p := if_pos hsource
  have hopens : (front ++ part.mark ++ back)[front.length]? = some '\x7b' := by
    obtain ⟨others, hopen, -⟩ := mark_eq part
    rw [List.append_assoc, List.getElem?_append_right (Nat.le_refl _), Nat.sub_self, hopen]
    rfl
  rw [← htext, List.append_assoc] at hopens
  rcases Nat.lt_or_ge front.length (written (filled p done) before).length with hlt | hge
  · -- the mark begins before the text, and so it is one of the places
    rw [List.getElem?_append_left hlt] at hopens
    obtain ⟨first, part', last, rfl, hpart', hfirst⟩ :=
      exists_place_of_brace hdone hbefore hopens
    have hmark' : filled p done part' = part'.mark := if_neg hpart'
    rw [written_append, written_cons, Piece.written, hmark'] at htext hends
    simp only [List.append_assoc] at htext
    have hmark := (List.append_inj htext hfirst).2
    obtain rfl : part = part' := eq_of_begins ⟨back, hmark.symm⟩
    simp only [List.length_append] at hends
    omega
  · -- the mark begins in the text
    rw [List.getElem?_append_right hge, hvalue, List.getElem?_append_left] at hopens
    · exact hdone source hsource (List.mem_of_getElem? hopens)
    · rw [hvalue] at hbegins
      omega

/-- Parts without opening braces may be put in one after the other, if the argument has no opening
brace but those of its marks. -/
theorem settled_of_no_brace {argument : String} (hname : '\x7b' ∉ p.name.toList)
    (hextension : '\x7b' ∉ p.extension.toList) (hargument : .char '\x7b' ∉ pieces argument) :
    Settled p argument := by
  have hone : ∀ source ∈ [Part.name], '\x7b' ∉ source.value p := by
    simpa [Part.value] using hname
  have htwo : ∀ source ∈ [Part.extension, .name], '\x7b' ∉ source.value p := by
    simpa [Part.value] using ⟨hextension, hname⟩
  exact ⟨not_taken_of_no_brace hone hargument (by simp),
    not_taken_of_no_brace htwo hargument (by simp), not_taken_of_no_brace htwo hargument (by simp)⟩

end

/-- **Putting in one part after the other fills an argument**, unless a text that has been put in
takes part in a mark that is replaced later. -/
theorem expand_eq_fill {p : Prompt} {argument : String} (h : Settled p argument) :
    expand p argument = fill p argument := by
  have hread : Reads argument.toList (pieces argument) := reads_piecesFrom 0 argument.toList
  have hstart : written (filled p []) (pieces argument) = argument.toList := by
    rw [← hread.written_mark]
    congr 1
  have hname := @replaceFrom_filled p [] .name (by simp) _ _ hread (by simp)
  have hextension := @replaceFrom_filled p [.name] .extension (by simp) _ _ hread (by
    simpa using h.name_extension)
  have hfolder := @replaceFrom_filled p [.extension, .name] .folder (by simp) _ _ hread (by
    simpa using ⟨h.extension_folder, h.name_folder⟩)
  have hall : filled p [.folder, .extension, .name] = Part.value p := by
    funext part
    cases part <;> rfl
  rw [hstart] at hname
  rw [hall] at hfolder
  rw [expand, fill, ← hfolder, ← hextension, ← hname]
  simp only [replaceAll, String.toList_ofList]
  rfl

/-- A prompt for a file without an extension. -/
def plainPrompt : Prompt := ⟨"clock", "", some ⟨"/\x7bname\x7d"⟩⟩

theorem expand_eq_fill_plainPrompt :
    Settled plainPrompt "--into=\x7bdir\x7d/\x7bname\x7d.\x7bext\x7d" ∧
    expand plainPrompt "--into=\x7bdir\x7d/\x7bname\x7d.\x7bext\x7d" =
      "--into=/\x7bname\x7d/clock." := by
  have hsettled : Settled plainPrompt "--into=\x7bdir\x7d/\x7bname\x7d.\x7bext\x7d" :=
    settled_of_no_brace (by decide) (by decide) (by decide)
  refine ⟨hsettled, ?_⟩
  rw [expand_eq_fill hsettled]
  decide

/-- A prompt whose name holds the mark of the folder. -/
def markedPrompt : Prompt := ⟨"\x7bdir\x7d.jsx", "jsx", some ⟨"/widgets"⟩⟩

/-- **What has been put in may be replaced again**: the operator is offered a file in the root
folder. -/
theorem markedPrompt_replaced_again :
    expand markedPrompt "\x7bname\x7d" = "/widgets.jsx" ∧
    fill markedPrompt "\x7bname\x7d" = "\x7bdir\x7d.jsx" ∧
    expand markedPrompt "\x7bname\x7d" ≠ fill markedPrompt "\x7bname\x7d" := by
  decide

end WidgetForge.Operator.Command

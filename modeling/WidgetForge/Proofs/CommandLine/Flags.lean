import Mathlib.Tactic.SplitIfs
import WidgetForge.CommandLine.Grammar

/-!
# Leaving out a flag

Words that are accepted with a flag among them are accepted without it, and give the same but for
the flag. The words before the flag are read as they are with it; from there on the two readings
differ in nothing but whether the flag has been given (`Without`), and no word that is accepted asks
for that, since no flag may be given twice.
-/

namespace WidgetForge.CommandLine

/-! ### Word by word -/

/-- What a word does. -/
inductive Taken where
  /-- The next word is read. -/
  | next (p : Progress)
  /-- It is a command, and the rest of the line belongs to it. -/
  | command (g : Given) (word : String)
  /-- There are only operands behind it. -/
  | operands (g : Given)

/-- Whether a switch may take a word as its value. -/
def Switch.mayTake (s : Switch) (word : String) : Bool :=
  match formOf word with
  | .other => true
  | .short letters => s.isSigned && isNumber letters
  | _ => false

/-- Takes a word of a form that is no command. -/
def takeForm (grammar : Grammar) (g : Given) (word : String) : Form → Except Stop Taken
  | .rest => .ok (.operands g)
  | .long name value => (takeName grammar.switches g name value).map .next
  | .short letters => (takeLetters grammar.switches g letters).map .next
  | .other =>
    if grammar.operands then .ok (.next (none, { g with operands := word :: g.operands }))
    else .error .usage

/-- Takes a word; a switch may be waiting for it. -/
def takeWord (grammar : Grammar) : Progress → String → Except Stop Taken
  | (some s, g), word =>
    if s.mayTake word then (s.take g word).map fun g => .next (none, g) else .error .usage
  | (none, g), word =>
    if grammar.commands.contains word then .ok (.command g word)
    else takeForm grammar g word (formOf word)

/-- Reads the words behind a word. -/
def Taken.readRest (grammar : Grammar) (rest : List String) : Taken → Except Stop Given
  | .next p => readWords grammar p rest
  | .command g word => .ok { g with command := some (word, rest) }
  | .operands g => readOperands grammar g rest

/-- Words are read one by one. -/
theorem readWords_cons (grammar : Grammar) (p : Progress) (word : String) (rest : List String) :
    readWords grammar p (word :: rest) =
      (takeWord grammar p word).bind (Taken.readRest grammar rest) := by
  obtain ⟨_ | s, g⟩ := p
  · unfold readWords takeWord
    by_cases hcommand : grammar.commands.contains word = true
    · simp only [hcommand, if_true]
      rfl
    · simp only [hcommand, Bool.false_eq_true, if_false]
      unfold takeForm
      cases formOf word with
      | rest => rfl
      | long name value =>
        dsimp only
        cases takeName grammar.switches g name value <;> rfl
      | short letters =>
        dsimp only
        cases takeLetters grammar.switches g letters <;> rfl
      | other => cases grammar.operands <;> rfl
  · have hread : readWords grammar (some s, g) (word :: rest) =
        if s.mayTake word then (s.take g word).bind fun g => readWords grammar (none, g) rest
        else .error .usage := by
      cases htake : s.take g word <;> simp only [readWords, htake] <;> rfl
    rw [hread, takeWord]
    cases s.mayTake word with
    | false => rfl
    | true => cases s.take g word <;> rfl

/-! ### The flag -/

/-- What words give with a flag, and what they give without it. -/
structure Without (flag : String) (g' g : Given) : Prop where
  /-- With the flag it has been given. -/
  there : g'.has flag = true
  /-- Without it it has not. -/
  gone : g.has flag = false
  /-- All other switches are the same. -/
  value? : ∀ name, name ≠ flag → g'.value? name = g.value? name
  /-- The operands are the same. -/
  operands : g'.operands = g.operands
  /-- The command is the same, and the words that belong to it. -/
  command : g'.command = g.command

/-- The same for what has been read of a line. -/
structure Progress.Without (flag : String) (p' p : Progress) : Prop where
  /-- The same switch waits for its value. -/
  waiting : p'.1 = p.1
  /-- What has been given is the same but for the flag. -/
  given : CommandLine.Without flag p'.2 p.2

/-- The same for what a word does. -/
inductive Taken.Without (flag : String) : Taken → Taken → Prop
  | next {p' p : Progress} : Progress.Without flag p' p → Taken.Without flag (.next p') (.next p)
  | command {g' g : Given} (h : CommandLine.Without flag g' g) (word : String) :
      Taken.Without flag (.command g' word) (.command g word)
  | operands {g' g : Given} : CommandLine.Without flag g' g →
      Taken.Without flag (.operands g') (.operands g)

/-- What succeeds on the left succeeds on the right, with results that are so related. -/
def Follows {α : Type} (R : α → α → Prop) (x' x : Except Stop α) : Prop :=
  ∀ a', x' = .ok a' → ∃ a, x = .ok a ∧ R a' a

section

variable {flag : String} {g' g : Given}

theorem Without.has (h : Without flag g' g) {name : String} (hname : name ≠ flag) :
    g'.has name = g.has name := by
  rw [Given.has, Given.has, h.value? name hname]

theorem follows_error {α : Type} {R : α → α → Prop} {e : Stop} {x : Except Stop α} :
    Follows R (.error e) x := fun _ h => nomatch h

theorem Follows.bind {α β : Type} {R : α → α → Prop} {Q : β → β → Prop} {x' x : Except Stop α}
    (h : Follows R x' x) {f' f : α → Except Stop β}
    (hf : ∀ a' a, R a' a → Follows Q (f' a') (f a)) : Follows Q (x'.bind f') (x.bind f) := by
  cases x' with
  | error e => exact follows_error
  | ok a' =>
    obtain ⟨a, rfl, ha⟩ := h a' rfl
    exact hf a' a ha

theorem follows_ok {α : Type} {R : α → α → Prop} {a' a : α} (h : R a' a) :
    Follows R (.ok a') (.ok a) := by
  rintro _ ⟨⟩
  exact ⟨a, rfl, h⟩

theorem Follows.map {α β : Type} {R : α → α → Prop} {Q : β → β → Prop} {x' x : Except Stop α}
    (h : Follows R x' x) {f : α → β} (hf : ∀ a' a, R a' a → Q (f a') (f a)) :
    Follows Q (x'.map f) (x.map f) := by
  intro b' hb'
  cases x' with
  | error e => exact nomatch hb'
  | ok a' =>
    obtain ⟨a, rfl, ha⟩ := h a' rfl
    obtain rfl := Except.ok.inj hb'
    exact ⟨f a, rfl, hf a' a ha⟩

/-! ### Behind the flag -/

theorem without_add (h : g.add flag "" = .ok g') : Without flag g' g := by
  unfold Given.add at h
  split_ifs at h with hgone
  obtain rfl := Except.ok.inj h
  refine ⟨by simp [Given.has, Given.value?], by simpa using hgone, fun name hname => ?_, rfl, rfl⟩
  have hne : (name == flag) = false := by simpa using hname
  simp [Given.value?, List.lookup_cons, hne]

theorem Without.add (h : Without flag g' g) (name value : String) :
    Follows (Without flag) (g'.add name value) (g.add name value) := by
  intro a' ha'
  unfold Given.add at ha' ⊢
  split_ifs at ha' with hnew
  obtain rfl := Except.ok.inj ha'
  have hname : name ≠ flag := by
    rintro rfl
    exact hnew h.there
  rw [h.has hname] at hnew
  rw [if_neg hnew]
  refine ⟨_, rfl, ?_, ?_, fun other hother => ?_, h.operands, h.command⟩
  · have hthere := h.there
    simp only [Given.has, Given.value?, List.lookup_cons] at hthere ⊢
    split
    · rfl
    · exact hthere
  · have hgone := h.gone
    have hne : (flag == name) = false := by simpa using Ne.symm hname
    simpa only [Given.has, Given.value?, List.lookup_cons, hne] using hgone
  · have hsame := h.value? other hother
    simp only [Given.value?, List.lookup_cons] at hsame ⊢
    rw [hsame]

theorem Without.take (h : Without flag g' g) (s : Switch) (value : String) :
    Follows (Without flag) (s.take g' value) (s.take g value) := by
  unfold Switch.take
  cases s.role with
  | value accepts signed =>
    dsimp only
    split_ifs
    · exact h.add _ _
    · exact follows_error
  | flag => exact follows_error
  | version => exact follows_error
  | help => exact follows_error

theorem Without.alone (h : Without flag g' g) (s : Switch) :
    Follows (Without flag) (s.alone g') (s.alone g) := by
  unfold Switch.alone
  cases s.role with
  | flag => exact h.add _ _
  | version => exact follows_error
  | help => exact follows_error
  | value accepts signed => exact follows_error

theorem Without.takeName (h : Without flag g' g) (switches : List Switch) (name : String)
    (value : Option String) :
    Follows (Progress.Without flag) (CommandLine.takeName switches g' name value)
      (CommandLine.takeName switches g name value) := by
  unfold CommandLine.takeName
  cases switches.find? fun s => s.name = name with
  | none => exact follows_error
  | some s =>
    cases value with
    | some value => exact (h.take s value).map fun _ _ h => ⟨rfl, h⟩
    | none =>
      dsimp only
      split_ifs
      · rintro _ ⟨⟩
        exact ⟨_, rfl, rfl, h⟩
      · exact (h.alone s).map fun _ _ h => ⟨rfl, h⟩

theorem Without.takeLetters (h : Without flag g' g) (switches : List Switch)
    (letters : List Char) :
    Follows (Progress.Without flag) (CommandLine.takeLetters switches g' letters)
      (CommandLine.takeLetters switches g letters) := by
  induction letters generalizing g' g with
  | nil =>
    rintro _ ⟨⟩
    exact ⟨_, rfl, rfl, h⟩
  | cons c rest ih =>
    unfold CommandLine.takeLetters
    cases switches.find? fun s => s.letter = some c with
    | none => exact follows_error
    | some s =>
      dsimp only
      split_ifs
      · cases rest with
        | nil =>
          rintro _ ⟨⟩
          exact ⟨_, rfl, rfl, h⟩
        | cons d value => exact (h.take s _).map fun _ _ h => ⟨rfl, h⟩
      · have halone := h.alone s
        cases hg' : s.alone g' with
        | error e => exact follows_error
        | ok a' =>
          obtain ⟨a, ha, hrel⟩ := halone a' hg'
          rw [ha]
          exact ih hrel

theorem Without.readOperands (h : Without flag g' g) (grammar : Grammar) (words : List String) :
    Follows (Without flag) (CommandLine.readOperands grammar g' words)
      (CommandLine.readOperands grammar g words) := by
  unfold CommandLine.readOperands
  split_ifs
  · rintro _ ⟨⟩
    refine ⟨_, rfl, h.there, h.gone, h.value?, ?_, h.command⟩
    rw [h.operands]
  · exact follows_error

theorem Without.takeForm (h : Without flag g' g) (grammar : Grammar) (word : String)
    (form : Form) : Follows (Taken.Without flag) (CommandLine.takeForm grammar g' word form)
      (CommandLine.takeForm grammar g word form) := by
  cases form with
  | rest => exact follows_ok (.operands h)
  | long name value => exact (h.takeName grammar.switches name value).map fun _ _ h => .next h
  | short letters => exact (h.takeLetters grammar.switches letters).map fun _ _ h => .next h
  | other =>
    unfold CommandLine.takeForm
    dsimp only
    split_ifs
    · refine follows_ok (.next ⟨rfl, h.there, h.gone, h.value?, ?_, h.command⟩)
      exact congrArg (word :: ·) h.operands
    · exact follows_error

theorem Progress.Without.takeWord {p' p : Progress} (h : Progress.Without flag p' p)
    (grammar : Grammar) (word : String) :
    Follows (Taken.Without flag) (CommandLine.takeWord grammar p' word)
      (CommandLine.takeWord grammar p word) := by
  obtain ⟨waiting, g'⟩ := p'
  obtain ⟨_, g⟩ := p
  obtain ⟨rfl, h⟩ := h
  unfold CommandLine.takeWord
  cases waiting with
  | some s =>
    dsimp only
    split_ifs
    · exact (h.take s word).map fun _ _ h => .next ⟨rfl, h⟩
    · exact follows_error
  | none =>
    dsimp only
    split_ifs
    · exact follows_ok (.command h word)
    · exact h.takeForm grammar word _

/-- **From the flag on**, words that are accepted with it are accepted without it. -/
theorem Progress.Without.readWords {p' p : Progress} (h : Progress.Without flag p' p)
    (grammar : Grammar) (words : List String) :
    Follows (CommandLine.Without flag) (CommandLine.readWords grammar p' words)
      (CommandLine.readWords grammar p words) := by
  induction words generalizing p' p with
  | nil =>
    obtain ⟨waiting, g'⟩ := p'
    obtain ⟨_, g⟩ := p
    obtain ⟨rfl, h⟩ := h
    cases waiting with
    | none => exact follows_ok h
    | some s => exact follows_error
  | cons word rest ih =>
    rw [readWords_cons, readWords_cons]
    refine (h.takeWord grammar word).bind fun taken' taken htaken => ?_
    cases htaken with
    | next hnext => exact ih hnext
    | command hgiven word =>
      exact follows_ok ⟨hgiven.there, hgiven.gone, hgiven.value?, hgiven.operands, rfl⟩
    | operands hgiven => exact hgiven.readOperands grammar rest

end

/-! ### The whole line -/

theorem takeForm_ne_command (grammar : Grammar) (g : Given) (word : String) (form : Form)
    (g' : Given) (command : String) :
    takeForm grammar g word form ≠ .ok (.command g' command) := by
  unfold takeForm
  cases form with
  | rest => nofun
  | long name value =>
    dsimp only
    cases takeName grammar.switches g name value <;> nofun
  | short letters =>
    dsimp only
    cases takeLetters grammar.switches g letters <;> nofun
  | other => cases grammar.operands <;> nofun

/-- Only the commands of the grammar are commands. -/
theorem contains_of_takeWord {grammar : Grammar} {p : Progress} {word command : String} {g : Given}
    (h : takeWord grammar p word = .ok (.command g command)) :
    grammar.commands.contains command = true := by
  obtain ⟨_ | s, given⟩ := p
  · unfold takeWord at h
    dsimp only at h
    split_ifs at h with hcommand
    · cases h
      exact hcommand
    · exact absurd h (takeForm_ne_command _ _ _ _ _ _)
  · unfold takeWord at h
    dsimp only at h
    split_ifs at h
    cases htake : s.take given word <;> simp [htake, Except.map] at h

section

variable {grammar : Grammar} {p : Progress} {word : String} {pre post : List String} {g : Given}

/-- Where there are no operands, a word is read behind those before it, or it belongs to a
command. -/
theorem readWords_append (hoperands : grammar.operands = false)
    (h : readWords grammar p (pre ++ word :: post) = .ok g) :
    (∃ q, readWords grammar q (word :: post) = .ok g ∧
      ∀ rest, readWords grammar p (pre ++ rest) = readWords grammar q rest) ∨
    ∃ command before, grammar.commands.contains command = true ∧
      g.command = some (command, before ++ word :: post) ∧
      ∀ rest, readWords grammar p (pre ++ rest) =
        .ok { g with command := some (command, before ++ rest) } := by
  induction pre generalizing p with
  | nil => exact Or.inl ⟨p, h, fun rest => rfl⟩
  | cons first pre ih =>
    rw [List.cons_append, readWords_cons] at h
    simp only [List.cons_append, readWords_cons grammar p first]
    cases htaken : takeWord grammar p first with
    | error e => simp [htaken, Except.bind] at h
    | ok taken =>
      rw [htaken] at h
      cases taken with
      | next q => exact ih h
      | command given command =>
        obtain rfl := Except.ok.inj h
        exact Or.inr ⟨command, pre, contains_of_takeWord htaken, rfl, fun rest => rfl⟩
      | operands given => simp [Except.bind, Taken.readRest, readOperands, hoperands] at h

/-- **A flag can be left out**: words that are accepted with it are accepted without it. -/
theorem readWords_without {s : Switch} (hcommands : grammar.commands = [])
    (hoperands : grammar.operands = false) (hform : formOf word = .long s.name none)
    (hfind : grammar.switches.find? (fun other => other.name = s.name) = some s)
    (hrole : s.role = .flag) (h : readWords grammar p (pre ++ word :: post) = .ok g) :
    ∃ c, readWords grammar p (pre ++ post) = .ok c ∧ Without s.name g c := by
  obtain ⟨⟨_ | waiting, given⟩, hread, hpre⟩ | ⟨command, -, hcommand, -⟩ :=
    readWords_append hoperands h
  · rw [hpre]
    have htaken : takeWord grammar (none, given) word =
        (given.add s.name "").map fun g => .next (none, g) := by
      simp only [takeWord, hcommands, List.contains_nil, Bool.false_eq_true, if_false, takeForm,
        hform, takeName, hfind, Switch.takesValue, Switch.alone, hrole]
      cases given.add s.name "" <;> rfl
    rw [readWords_cons, htaken] at hread
    cases hadded : given.add s.name "" with
    | error e => simp [hadded, Except.map, Except.bind] at hread
    | ok added =>
      rw [hadded] at hread
      have hwithout : Progress.Without s.name (none, added) (none, given) :=
        ⟨rfl, without_add hadded⟩
      exact hwithout.readWords grammar post g hread
  · simp [readWords_cons, takeWord, Switch.mayTake, hform, Except.bind] at hread
  · simp [hcommands] at hcommand

/-- A word that a grammar does not know can only belong to a command. -/
theorem readWords_unknown {name : String} (hoperands : grammar.operands = false)
    (hword : grammar.commands.contains word = false) (hform : formOf word = .long name none)
    (hfind : grammar.switches.find? (fun s => s.name = name) = none)
    (h : readWords grammar p (pre ++ word :: post) = .ok g) :
    ∃ command before, g.command = some (command, before ++ word :: post) ∧
      readWords grammar p (pre ++ post) =
        .ok { g with command := some (command, before ++ post) } := by
  obtain ⟨⟨_ | waiting, given⟩, hread, -⟩ | ⟨command, before, -, hcommand, hpre⟩ :=
    readWords_append hoperands h
  · have htaken : takeWord grammar (none, given) word = .error .usage := by
      simp only [takeWord, hword, Bool.false_eq_true, if_false, takeForm, hform, takeName, hfind]
      rfl
    rw [readWords_cons, htaken] at hread
    exact nomatch hread
  · simp [readWords_cons, takeWord, Switch.mayTake, hform, Except.bind] at hread
  · exact ⟨command, before, hcommand, hpre post⟩

end

end WidgetForge.CommandLine

import Mathlib.Data.List.Induction
import Mathlib.Data.List.Sort
import WidgetForge.Proofs.Procedure.Ends
import WidgetForge.Proofs.Text.Utf8
import WidgetForge.Proofs.Tool.Compile

/-!
# What has been registered

A registry is made by registering tools one after the other. However many there are and in whatever
order they come, what the registry answers depends only on which tool has been registered last under
each name: its tools stand in the order of the octets of their names, each name once
(`Registry.Ordered`), and such a list is determined by what is found in it under each name.
-/

namespace WidgetForge.Tool

open Json Procedure Text

/-! ### The order of names -/

theorem precedes_iff {a b : String} : precedes a b = true ↔ Utf8.encode a < Utf8.encode b := by
  simp [precedes]

theorem encode_injective {a b : String} (h : Utf8.encode a = Utf8.encode b) : a = b := by
  have hdecode := Utf8.decode_encode a
  rw [h, Utf8.decode_encode] at hdecode
  exact (Except.ok.inj hdecode).symm

theorem precedes_trans {a b c : String} (hab : precedes a b = true) (hbc : precedes b c = true) :
    precedes a c = true :=
  precedes_iff.mpr (List.lt_trans (precedes_iff.mp hab) (precedes_iff.mp hbc))

theorem not_precedes_self (a : String) : precedes a a = false := by
  simp [precedes]

/-- Of two names one comes first. -/
theorem precedes_or_precedes {a b : String} (h : a ≠ b) :
    precedes a b = true ∨ precedes b a = true := by
  by_contra hneither
  rw [not_or, precedes_iff, precedes_iff, List.not_lt, List.not_lt] at hneither
  exact h (encode_injective (List.le_antisymm hneither.2 hneither.1))

namespace Registry

/-- Whether a tool stands before another. -/
def Before (t t' : Tool) : Prop := precedes t.name t'.name = true

theorem not_before_self (t : Tool) : ¬ Before t t := by
  rw [Before, not_precedes_self]
  exact Bool.false_ne_true

instance : Std.Irrefl Before := ⟨not_before_self⟩

instance : Std.Antisymm Before := ⟨fun t _ h h' => absurd (precedes_trans h h') (not_before_self t)⟩

/-- The tools stand in order, each name once. -/
def Ordered (tools : List Tool) : Prop := tools.Pairwise Before

section

variable {tool t : Tool} {tools tools' : List Tool}

theorem mem_of_mem_place (h : t ∈ place tool tools) : t = tool ∨ t ∈ tools := by
  induction tools with
  | nil => exact Or.inl (List.mem_singleton.mp h)
  | cons first rest ih =>
    rw [place] at h
    split_ifs at h with hname hprecedes
    · exact (List.mem_cons.mp h).imp_right fun hrest => List.mem_cons_of_mem _ hrest
    · exact List.mem_cons.mp h
    · rcases List.mem_cons.mp h with rfl | hplaced
      · exact Or.inr List.mem_cons_self
      · exact (ih hplaced).imp_right fun hrest => List.mem_cons_of_mem _ hrest

/-- **A tool that is registered** is put in order. -/
theorem Ordered.place (h : Ordered tools) (tool : Tool) : Ordered (place tool tools) := by
  induction tools with
  | nil => exact List.pairwise_singleton _ _
  | cons first rest ih =>
    obtain ⟨hfirst, hrest⟩ := List.pairwise_cons.mp h
    rw [Registry.place]
    split_ifs with hname hprecedes
    · refine List.pairwise_cons.mpr ⟨fun t ht => ?_, hrest⟩
      rw [Before, hname]
      exact hfirst t ht
    · refine List.pairwise_cons.mpr ⟨fun t ht => ?_, h⟩
      rcases List.mem_cons.mp ht with rfl | ht
      · exact hprecedes
      · exact precedes_trans hprecedes (hfirst t ht)
    · refine List.pairwise_cons.mpr ⟨fun t ht => ?_, ih hrest⟩
      rcases mem_of_mem_place ht with rfl | ht
      · exact (precedes_or_precedes hname).resolve_left hprecedes
      · exact hfirst t ht

/-- In order, each tool is found under its name. -/
theorem Ordered.find?_of_mem (h : Ordered tools) (ht : t ∈ tools) :
    (tools.find? fun t' => t'.name = t.name) = some t := by
  induction tools with
  | nil => exact nomatch ht
  | cons first rest ih =>
    obtain ⟨hfirst, hrest⟩ := List.pairwise_cons.mp h
    rcases List.mem_cons.mp ht with rfl | hmem
    · simp
    · have hne : first.name ≠ t.name := by
        intro heq
        have hbefore := hfirst t hmem
        rw [Before, heq] at hbefore
        exact not_before_self t hbefore
      simpa [hne] using ih hrest hmem

theorem Ordered.mem_iff_find? (h : Ordered tools) :
    t ∈ tools ↔ (tools.find? fun t' => t'.name = t.name) = some t :=
  ⟨h.find?_of_mem, List.mem_of_find?_eq_some⟩

/-- In order, what is found under each name determines all. -/
theorem Ordered.eq_of_find? (h : Ordered tools) (h' : Ordered tools')
    (hsame : ∀ name, (tools.find? fun t => t.name = name) = tools'.find? fun t => t.name = name) :
    tools = tools' := by
  refine List.Pairwise.eq_of_mem_iff h h' fun t => ?_
  rw [h.mem_iff_find?, h'.mem_iff_find?, hsame]

end

/-! ### One tool after the other -/

/-- The registry in which these tools have been registered, one after the other. -/
def ofTools (tools : List Tool) : Registry := tools.foldl register empty

/-- The last of these tools that has this name. -/
def lastNamed (name : String) (tools : List Tool) : Option Tool :=
  tools.reverse.find? fun t => t.name = name

section

variable {tools : List Tool} {name : String}

theorem ofTools_append (tools : List Tool) (tool : Tool) :
    ofTools (tools ++ [tool]) = (ofTools tools).register tool := by
  simp [ofTools]

theorem lastNamed_append (name : String) (tools : List Tool) (tool : Tool) :
    lastNamed name (tools ++ [tool]) =
      if tool.name = name then some tool else lastNamed name tools := by
  by_cases h : tool.name = name <;> simp [lastNamed, h]

theorem lastNamed_eq_none_iff : lastNamed name tools = none ↔ ∀ t ∈ tools, t.name ≠ name := by
  simp [lastNamed]

theorem exists_lastNamed (h : ∃ t ∈ tools, t.name = name) : ∃ t, lastNamed name tools = some t := by
  rw [← Option.ne_none_iff_exists']
  simpa [lastNamed_eq_none_iff] using h

/-- **However tools are registered**, they stand in order. -/
theorem ordered_ofTools (tools : List Tool) : Ordered (ofTools tools).tools := by
  induction tools using List.reverseRecOn with
  | nil => exact List.Pairwise.nil
  | append_singleton tools tool ih =>
    rw [ofTools_append]
    exact ih.place tool

/-- **However tools are registered**, the last one is found under its name. -/
theorem get?_ofTools (name : String) (tools : List Tool) :
    (ofTools tools).get? name = lastNamed name tools := by
  induction tools using List.reverseRecOn with
  | nil => rfl
  | append_singleton tools tool ih =>
    rw [ofTools_append, lastNamed_append]
    split_ifs with hname
    · rw [← hname, get?_register_self]
    · rw [get?_register_other _ hname, ih]

theorem ordered_names {r : Registry} (h : Ordered r.tools) :
    r.names.Pairwise fun a b => Utf8.encode a < Utf8.encode b :=
  List.pairwise_map.mpr (h.imp fun hbefore => precedes_iff.mp hbefore)

theorem mem_names_iff {r : Registry} : name ∈ r.names ↔ r.get? name ≠ none := by
  simp [names, get?]

/-- In order, the specifications are those of the tools that are found under the names. -/
theorem map_some_specs {r : Registry} (h : Ordered r.tools) :
    r.specs.map some = r.names.map fun name => (r.get? name).map Tool.spec := by
  rw [specs, names, List.map_map, List.map_map]
  refine List.map_congr_left fun t ht => ?_
  have hfound : r.get? t.name = some t := h.find?_of_mem ht
  simp only [Function.comp_apply, hfound, Option.map_some]

end

/-! ### Calls -/

section

variable {r : Registry} {name : String} {arguments : Value}

theorem call_of_none (h : r.get? name = none) (arguments : Value) :
    r.call name arguments = .done (.failed (.unknown name)) := by
  rw [call, h]

theorem call_of_some {t : Tool} (h : r.get? name = some t) (arguments : Value) :
    r.call name arguments = t.call arguments := by
  rw [call, h]

/-- The agent is told of an error if the call has failed with it. -/
theorem error_output_iff {result : Result} {e : Error} :
    (∃ output, result.output = .ok output ∧ output.error = some e) ↔ result = .failed e := by
  constructor
  · rintro ⟨output, houtput, herror⟩
    cases result with
    | line text =>
      obtain rfl := Except.ok.inj houtput
      exact nomatch herror
    | failed e' =>
      obtain rfl := Except.ok.inj houtput
      rw [Option.some.inj herror]
    | crashed message => exact nomatch houtput
  · rintro rfl
    exact ⟨.failed e, rfl, rfl⟩

end

/-- What a registry answers in which these tools have been registered, one after the other. -/
structure Answers (tools : List Tool) (r : Registry) : Prop where
  /-- The names stand in the order of their octets, each of them once. -/
  ordered : r.names.Pairwise fun a b => Utf8.encode a < Utf8.encode b
  /-- They are the names of the tools. -/
  mem_names : ∀ name, name ∈ r.names ↔ ∃ t ∈ tools, t.name = name
  /-- Under each name there is the last tool of this name. -/
  get?_eq : ∀ name, r.get? name = lastNamed name tools
  /-- A further tool changes nothing under other names. -/
  get?_register : ∀ name (tool : Tool), tool.name ≠ name →
    (r.register tool).get? name = r.get? name
  /-- There is one specification for each name, in the same order: that of the tool of this name. -/
  specs : r.specs.map some = r.names.map fun name => (r.get? name).map Tool.spec
  /-- A call under a name that has never been registered does nothing but fail. -/
  unknown : ∀ name arguments, (∀ t ∈ tools, t.name ≠ name) →
    r.call name arguments = .done (.failed (.unknown name)) ∧
      r.dispatch name arguments = .done (.ok (.failed (.unknown name)))
  /-- A call under any other name is a call of the tool of this name. -/
  known : ∀ name arguments, (∃ t ∈ tools, t.name = name) → ∃ t, r.get? name = some t ∧
    r.call name arguments = t.call arguments ∧
      r.dispatch name arguments = (t.call arguments).map Result.output
  /-- So a call fails because of its name exactly if the name has never been registered, unless a
  tool itself gives this as its error. -/
  call_unknown_iff : ∀ name arguments w result w', (r.call name arguments).Ends w result w' →
    (∀ t, r.get? name = some t → ¬ (t.call arguments).Ends w (.failed (.unknown name)) w') →
    (result = .failed (.unknown name) ↔ ∀ t ∈ tools, t.name ≠ name)
  /-- The same holds of what the agent is told. -/
  dispatch_unknown_iff : ∀ name arguments w ended w',
    (r.dispatch name arguments).Ends w ended w' →
    (∀ t, r.get? name = some t → ¬ (t.call arguments).Ends w (.failed (.unknown name)) w') →
    ((∃ output, ended = .ok output ∧ output.error = some (.unknown name)) ↔
      ∀ t ∈ tools, t.name ≠ name)

theorem get?_ofTools_eq_none_iff {tools : List Tool} {name : String} :
    (ofTools tools).get? name = none ↔ ∀ t ∈ tools, t.name ≠ name := by
  rw [get?_ofTools, lastNamed_eq_none_iff]

theorem mem_names_ofTools {tools : List Tool} {name : String} :
    name ∈ (ofTools tools).names ↔ ∃ t ∈ tools, t.name = name := by
  rw [mem_names_iff, ne_eq, get?_ofTools_eq_none_iff]
  simp only [not_forall, not_not, exists_prop]

theorem call_unknown_iff {tools : List Tool} {name : String} {arguments : Value} {w w' : World}
    {result : Result} (h : ((ofTools tools).call name arguments).Ends w result w')
    (hhonest : ∀ t, (ofTools tools).get? name = some t →
      ¬ (t.call arguments).Ends w (.failed (.unknown name)) w') :
    result = .failed (.unknown name) ↔ ∀ t ∈ tools, t.name ≠ name := by
  rw [← get?_ofTools_eq_none_iff]
  cases hget : (ofTools tools).get? name with
  | none =>
    rw [call_of_none hget] at h
    exact ⟨fun _ => rfl, fun _ => (ends_done_iff.mp h).1⟩
  | some t =>
    rw [call_of_some hget] at h
    refine ⟨?_, nofun⟩
    rintro rfl
    exact absurd h (hhonest t hget)

theorem dispatch_unknown_iff {tools : List Tool} {name : String} {arguments : Value}
    {w w' : World} {ended : Except String Output}
    (h : ((ofTools tools).dispatch name arguments).Ends w ended w')
    (hhonest : ∀ t, (ofTools tools).get? name = some t →
      ¬ (t.call arguments).Ends w (.failed (.unknown name)) w') :
    (∃ output, ended = .ok output ∧ output.error = some (.unknown name)) ↔
      ∀ t ∈ tools, t.name ≠ name := by
  obtain ⟨result, hresult, rfl⟩ := ends_map_iff.mp h
  rw [error_output_iff]
  exact call_unknown_iff hresult hhonest

/-- **What has been registered** is answered for: however many tools are registered in whatever
order, each is listed, described and called under its name until another tool takes its name, and
nothing but the last tools of all names matters. -/
theorem answers_ofTools (tools : List Tool) :
    Answers tools (ofTools tools) ∧
    ∀ others, (∀ name, lastNamed name others = lastNamed name tools) →
      ofTools others = ofTools tools := by
  have hordered := ordered_ofTools tools
  refine ⟨⟨ordered_names hordered, fun name => mem_names_ofTools,
    fun name => get?_ofTools name tools, fun name tool => get?_register_other _,
    map_some_specs hordered, ?unknown, ?known,
    fun name arguments w result w' => call_unknown_iff,
    fun name arguments w ended w' => dispatch_unknown_iff⟩, ?same⟩
  case unknown =>
    intro name arguments hnever
    have hcall := call_of_none (get?_ofTools_eq_none_iff.mpr hnever) arguments
    refine ⟨hcall, ?_⟩
    rw [dispatch, hcall]
    rfl
  case known =>
    intro name arguments hsome
    obtain ⟨t, ht⟩ := exists_lastNamed hsome
    have hget : (ofTools tools).get? name = some t := (get?_ofTools name tools).trans ht
    refine ⟨t, hget, call_of_some hget arguments, ?_⟩
    rw [dispatch, call_of_some hget]
  case same =>
    intro others hsame
    have hfound (name : String) : (ofTools others).get? name = (ofTools tools).get? name := by
      rw [get?_ofTools, get?_ofTools, hsame]
    exact congrArg Registry.mk ((ordered_ofTools others).eq_of_find? hordered hfound)

/-- A name that is taken twice and is longer than one that comes later. -/
example : (ofTools (["ab", "b", "a", "ab"].map fun name =>
    ⟨name, "", .null, fun _ => .done (.line name)⟩)).names = ["a", "ab", "b"] := by decide

end Registry

end WidgetForge.Tool

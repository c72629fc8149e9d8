import FlowLint.Plan
import FlowLint.Proofs.Check.Correspondence
import FlowLint.Proofs.Wiring.Verdict

/-!
# Malformed entries of the connection table

A connection table can hold anything, and what is no source, port, slot or entry is passed over
where it stands. Here such a table is cleaned (`Graph.cleaned`): only well-formed parts stay, and of
an entry only the node and the index. Nobody who reads the table can tell the difference.

* **`Members.get?_clean`**, **`Members.flatMap_texts_clean`**: looking up in a cleaned mapping and
  reading it through.
* **`Graph.wires_cleaned`**, **`Graph.outbound_cleaned`**: the wires and the targets stay. A slot
  that is no list is left empty and not dropped, which keeps the positions of those behind it.
* **`Check.Alike`**: what a graph and its cleaned form have in common for the checks.
* **`Graph.cleaned_invisible`**: index, targets, checks and plan are the same.
-/

namespace FlowLint

/-! ## Cleaning -/

/-- An entry that states a node and an index, and nothing else. -/
def entryFor (node : String) (index : Int) : Value :=
  .map [(.text "node", .text node), (.text "index", .int index)]

/-- An entry with its node and its index only; there is none when no node is named. -/
def cleanTarget? (entry : Value) : Option Value :=
  (entryNode? entry).map fun node => entryFor node (entryIndex entry)

/-- A slot with its clean entries; what is no list becomes an empty slot. -/
def cleanSlot (slot : Value) : Value :=
  .list ((slot.items?.getD []).filterMap cleanTarget?)

/-- The clean slots of a port, if these are a list. -/
def cleanPort? (slots : Value) : Option Value :=
  slots.items?.map fun slots => .list (slots.map cleanSlot)

/-- The members under texts whose values can be cleaned, with their clean values. -/
def Members.clean (clean? : Value → Option Value) (members : Members) : Members :=
  members.filterMap fun member =>
    match member.1 with
    | .text name => (clean? member.2).map fun value => (.text name, value)
    | _ => none

/-- The clean outputs of a source, if these are a mapping. -/
def cleanSource? (outputs : Value) : Option Value :=
  outputs.members?.map fun ports => .map (ports.clean cleanPort?)

/-- The graph with nothing malformed in its connection table. -/
def Graph.cleaned (g : Graph) : Graph :=
  { g with connections := g.connections.clean cleanSource? }

/-! ## Cleaned mappings -/

namespace Members

variable {clean? : Value → Option Value}

theorem clean_cons_text (name : String) (value : Value) (rest : Members) :
    clean clean? ((.text name, value) :: rest)
      = ((clean? value).map fun cleaned => (.text name, cleaned)).toList ++ clean clean? rest := by
  rw [clean, List.filterMap_cons]
  cases hvalue : clean? value <;> simp [clean]

theorem clean_cons_of_not_text {key : Scalar} (value : Value) (rest : Members)
    (h : ∀ name, key ≠ .text name) : clean clean? ((key, value) :: rest) = clean clean? rest := by
  cases key with
  | text name => exact absurd rfl (h name)
  | _ => rfl

/-- A mapping that is cleaned holds under a text the clean value of what it held. No other member of
that text can come to light when its value is dropped. -/
theorem get?_clean {members : Members} (h : members.Distinct) (name : String) :
    (clean clean? members).get? name = (members.get? name).bind clean? := by
  induction members with
  | nil => rfl
  | cons member rest ih =>
    obtain ⟨key, value⟩ := member
    have ih := ih (List.pairwise_cons.1 h).2
    by_cases hkey : ∃ other, key = .text other
    · obtain ⟨other, rfl⟩ := hkey
      rw [clean_cons_text, get?_cons]
      by_cases ho : other = name
      · subst ho
        rw [if_pos rfl, Option.bind_some]
        cases clean? value with
        | some cleaned => simp [get?_cons]
        | none => simpa [get?_eq_none_of_distinct h] using ih
      · have hne : Scalar.text other ≠ .text name := fun he => ho (Scalar.text.inj he)
        rw [if_neg hne, ← ih]
        cases clean? value <;> simp [get?_cons, ho]
    · have hnot : ∀ other, key ≠ .text other := fun other he => hkey ⟨other, he⟩
      rw [clean_cons_of_not_text value rest hnot, ih, get?_cons, if_neg (hnot name)]

/-- What is made from the members under texts is the same after cleaning, if cleaning a value keeps
what is made of it and nothing is made of a value that is dropped. -/
theorem flatMap_texts_clean {β : Type} (make : String → Value → List β)
    (kept : ∀ name value cleaned, clean? value = some cleaned → make name cleaned = make name value)
    (dropped : ∀ name value, clean? value = none → make name value = []) (members : Members) :
    ((clean clean? members).texts.flatMap fun member => make member.1 member.2)
      = members.texts.flatMap fun member => make member.1 member.2 := by
  induction members with
  | nil => rfl
  | cons member rest ih =>
    obtain ⟨key, value⟩ := member
    by_cases hkey : ∃ name, key = .text name
    · obtain ⟨name, rfl⟩ := hkey
      rw [clean_cons_text, texts_cons_text, List.flatMap_cons]
      cases hvalue : clean? value with
      | some cleaned =>
        rw [Option.map_some, Option.toList_some, List.singleton_append, texts_cons_text,
          List.flatMap_cons, ih, kept name value cleaned hvalue]
      | none => rw [dropped name value hvalue, Option.map_none, Option.toList_none,
          List.nil_append, List.nil_append, ih]
    · have hnot : ∀ name, key ≠ .text name := fun name he => hkey ⟨name, he⟩
      rw [clean_cons_of_not_text value rest hnot, texts_cons_of_not_text value rest hnot, ih]

/-- Each member of a cleaned mapping has the key of a member before, and its clean value. -/
theorem exists_of_mem_clean {members : Members} {member : Scalar × Value}
    (h : member ∈ clean clean? members) :
    ∃ value, (member.1, value) ∈ members ∧ clean? value = some member.2 := by
  obtain ⟨⟨key, value⟩, hold, hmember⟩ := List.mem_filterMap.1 h
  cases key with
  | text name =>
    obtain ⟨cleaned, hcleaned, rfl⟩ := Option.map_eq_some_iff.1 hmember
    exact ⟨value, hold, hcleaned⟩
  | _ => exact nomatch hmember

theorem distinct_clean {members : Members} (h : members.Distinct) :
    (clean clean? members).Distinct := by
  induction members with
  | nil => exact .nil
  | cons member rest ih =>
    obtain ⟨key, value⟩ := member
    obtain ⟨hfirst, hrest⟩ := List.pairwise_cons.1 h
    by_cases hkey : ∃ name, key = .text name
    · obtain ⟨name, rfl⟩ := hkey
      rw [clean_cons_text]
      cases clean? value with
      | none => exact ih hrest
      | some cleaned =>
        refine List.pairwise_cons.2 ⟨fun other hother => ?_, ih hrest⟩
        obtain ⟨old, hold, -⟩ := exists_of_mem_clean hother
        exact hfirst (other.1, old) hold
    · have hnot : ∀ name, key ≠ .text name := fun name he => hkey ⟨name, he⟩
      rw [clean_cons_of_not_text value rest hnot]
      exact ih hrest

end Members

/-! ## Clean entries and slots -/

theorem entryNode?_entryFor {node : String} (h : node ≠ "") (index : Int) :
    entryNode? (entryFor node index) = some node := by
  simp [entryNode?, entryFor, Members.get?_cons, h]

theorem entryIndex_entryFor (node : String) (index : Int) :
    entryIndex (entryFor node index) = index := by
  simp [entryIndex, entryFor, Members.get?_cons]

/-- An entry and its clean form name the same node. -/
theorem entryNode?_bind_cleanTarget? (entry : Value) :
    (cleanTarget? entry).bind entryNode? = entryNode? entry := by
  cases hnode : entryNode? entry with
  | none => rw [cleanTarget?, hnode, Option.map_none, Option.bind_none]
  | some node =>
    rw [cleanTarget?, hnode, Option.map_some, Option.bind_some]
    exact entryNode?_entryFor (entryNode?_ne_empty hnode) _

/-- An entry and its clean form are the same target. -/
theorem ofValue?_bind_cleanTarget? (entry : Value) :
    (cleanTarget? entry).bind Target.ofValue? = Target.ofValue? entry := by
  cases hnode : entryNode? entry with
  | none => rw [cleanTarget?, hnode, Option.map_none, Option.bind_none, ofValue?_eq_map, hnode,
      Option.map_none]
  | some node =>
    have hclean : entryNode? (entryFor node (entryIndex entry)) = some node :=
      entryNode?_entryFor (entryNode?_ne_empty hnode) _
    rw [cleanTarget?, hnode, Option.map_some, Option.bind_some, ofValue?_eq_map entry, hnode,
      Option.map_some]
    exact (ofValue?_eq_map _).trans (by rw [hclean, entryIndex_entryFor]; rfl)

theorem slotWires_cleanSlot (source port : String) (slot : Value) (position : Nat) :
    slotWires source port (cleanSlot slot) position = slotWires source port slot position := by
  rw [slotWires, slotWires, cleanSlot, Value.items?_list, Option.getD_some,
    List.filterMap_filterMap]
  simp only [entryNode?_bind_cleanTarget?]

theorem slotTargets_cleanSlot (slot : Value) :
    slotTargets ((cleanSlot slot).items?.getD []) = slotTargets (slot.items?.getD []) := by
  rw [cleanSlot, Value.items?_list, Option.getD_some, slotTargets, List.filterMap_filterMap]
  simp only [ofValue?_bind_cleanTarget?]
  rfl

/-- The targets of slots, a slot that is no list having none. -/
theorem flatMap_portSlots (slots : List Value) :
    (portSlots slots).flatMap (·.2)
      = slots.flatMap fun slot => slotTargets (slot.items?.getD []) := by
  have hpositions : slots.flatMap (fun slot => slotTargets (slot.items?.getD []))
      = slots.zipIdx.flatMap fun entry => slotTargets (entry.1.items?.getD []) := by
    conv_lhs => rw [← List.zipIdx_map_fst 0 slots]
    rw [List.flatMap_map]
  rw [hpositions, portSlots]
  induction slots.zipIdx with
  | nil => rfl
  | cons entry rest ih =>
    obtain ⟨slot, position⟩ := entry
    rw [List.filterMap_cons, List.flatMap_cons, ← ih]
    cases hitems : slot.items? with
    | none => simp [hitems, slotTargets]
    | some entries => simp [hitems]

namespace Graph

/-! ## The wires stay -/

theorem portWires_of_cleanPort? (source port : String) {slots cleaned : Value}
    (h : cleanPort? slots = some cleaned) :
    portWires source port cleaned = portWires source port slots := by
  obtain ⟨items, hitems, rfl⟩ := Option.map_eq_some_iff.1 h
  rw [portWires, portWires, hitems, Value.items?_list, Option.getD_some, Option.getD_some,
    List.zipIdx_map, List.flatMap_map]
  simp only [Prod.map_fst, Prod.map_snd, slotWires_cleanSlot, id_eq]

theorem portWires_of_cleanPort?_none (source port : String) {slots : Value}
    (h : cleanPort? slots = none) : portWires source port slots = [] := by
  rw [portWires, Option.map_eq_none_iff.1 h]
  rfl

theorem sourceWires_of_cleanSource? (source : String) {outputs cleaned : Value}
    (h : cleanSource? outputs = some cleaned) :
    sourceWires source cleaned = sourceWires source outputs := by
  obtain ⟨ports, hports, rfl⟩ := Option.map_eq_some_iff.1 h
  rw [sourceWires, sourceWires, hports, Value.members?_map, Option.getD_some, Option.getD_some]
  exact Members.flatMap_texts_clean (portWires source)
    (fun port _ _ hclean => portWires_of_cleanPort? source port hclean)
    (fun port _ hdropped => portWires_of_cleanPort?_none source port hdropped) ports

theorem sourceWires_of_cleanSource?_none (source : String) {outputs : Value}
    (h : cleanSource? outputs = none) : sourceWires source outputs = [] := by
  rw [sourceWires, Option.map_eq_none_iff.1 h]
  rfl

/-- **The wires of a cleaned table** are those of the table, at the same positions. -/
theorem wires_cleaned (g : Graph) : g.cleaned.wires = g.wires :=
  Members.flatMap_texts_clean sourceWires
    (fun source _ _ hclean => sourceWires_of_cleanSource? source hclean)
    (fun source _ hdropped => sourceWires_of_cleanSource?_none source hdropped) g.connections

theorem tableDistinct_cleaned {g : Graph} (h : g.TableDistinct) : g.cleaned.TableDistinct := by
  refine ⟨Members.distinct_clean h.sources, fun member hmem => ?_⟩
  obtain ⟨outputs, hold, hclean⟩ := Members.exists_of_mem_clean hmem
  obtain ⟨ports, hports, hmember⟩ := Option.map_eq_some_iff.1 hclean
  rw [← hmember, Value.members?_map, Option.getD_some]
  have hdistinct := h.ports _ hold
  rw [hports, Option.getD_some] at hdistinct
  exact Members.distinct_clean hdistinct

/-! ## The targets stay -/

theorem outputs_cleaned {g : Graph} (h : g.TableDistinct) (source : String) :
    g.cleaned.outputs source = (g.outputs source).clean cleanPort? := by
  have hget : g.cleaned.connections.get? source = (g.connections.get? source).bind cleanSource? :=
    Members.get?_clean h.sources source
  rw [Graph.outputs, Graph.outputs, hget]
  cases g.connections.get? source with
  | none => rfl
  | some outputs =>
    rw [Option.bind_some, Option.bind_some, cleanSource?]
    cases outputs.members? <;> rfl

/-- **The targets of a cleaned table** are those of the table, with their indices. -/
theorem outbound_cleaned {g : Graph} (h : g.TableDistinct) (source port : String) :
    g.cleaned.outbound source port = g.outbound source port := by
  rw [outbound, outbound, Graph.slots, Graph.slots, flatMap_portSlots, flatMap_portSlots,
    outputs_cleaned h, Members.get?_clean (distinct_outputs h source)]
  cases (g.outputs source).get? port with
  | none => rfl
  | some slots =>
    rw [Option.bind_some, Option.bind_some, cleanPort?]
    cases slots.items? with
    | none => rfl
    | some items =>
      rw [Option.map_some, Option.bind_some, Value.items?_list, Option.getD_some, Option.getD_some,
        List.flatMap_map]
      simp only [slotTargets_cleanSlot]

/-! ## Those who read the table -/

/-- The reverse index holds the same edges in the same order. -/
theorem build_cleaned {g : Graph} (h : g.TableDistinct) :
    ReverseIndex.build g.cleaned = ReverseIndex.build g := by
  rw [ReverseIndex.build_eq_foldl_wires (tableDistinct_cleaned h),
    ReverseIndex.build_eq_foldl_wires h, wires_cleaned]

theorem alike_cleaned {g : Graph} (h : g.TableDistinct) (settings : Settings) :
    Check.Alike (.of g.cleaned settings) (.of g settings) where
  settings_eq := rfl
  inbound_eq name port := congrArg (·.inbound name port) (build_cleaned h)
  named_eq _ := rfl
  mainTargets_eq name := outbound_cleaned h name Port.main.name

theorem block_cleaned {g : Graph} (h : g.TableDistinct) (index : ReverseIndex) (number : Nat)
    (name : String) : Plan.block g.cleaned index number name = Plan.block g index number name := by
  have htargets : g.cleaned.mainTargets name = g.mainTargets name :=
    outbound_cleaned h name Port.main.name
  unfold Plan.block
  rw [htargets]
  rfl

theorem plan_cleaned {g : Graph} (h : g.TableDistinct) : g.cleaned.plan = g.plan := by
  have hlines : Plan.lines g.cleaned = Plan.lines g := by
    unfold Plan.lines
    simp only [build_cleaned h, block_cleaned h]
    rfl
  rw [plan, plan, hlines]

/-- **Malformed parts of the connection table are invisible.** When they are cleaned away, the
reverse index and the targets of every port stay as they are, every run of the checks ends in the
same way, and the plan is the same. -/
theorem cleaned_invisible (g : Graph) (h : g.TableDistinct) :
    ReverseIndex.build g.cleaned = ReverseIndex.build g
    ∧ (∀ source port, g.cleaned.outbound source port = g.outbound source port)
    ∧ (∀ settings, Check.graph g.cleaned settings = Check.graph g settings)
    ∧ g.cleaned.plan = g.plan :=
  ⟨build_cleaned h, outbound_cleaned h, fun settings => (alike_cleaned h settings).nodes_eq g.nodes,
    plan_cleaned h⟩

/-- A table with something malformed at every level: a source and a port that are no texts, outputs
that are no mapping, slots that are no list, entries that name no node, and indices that are no
integers. One slot contains itself. -/
def litteredTable : Graph where
  name := none
  nodes := [⟨none, "agent", NodeType.agentType, .int 1, [], [], false, []⟩]
  connections :=
    [(.text "n", .list [.text "agent"]),
      (.int 1, .map [(.text "main", .list [.list [entry "agent" .null]])]),
      (.text "m", .map
        [(.null, .list [.list [entry "agent" .null]]), (.text "ai_tool", .text "agent"),
          (.text "ai_languageModel", .list
            [.text "agent",
              .list [.null, .map [(.text "index", .int 1)], entry "" .null, .list [],
                entry "agent" (.bool true)],
              .knot 0 (.list [.back 0, entry "agent" (.int 7)])]),
          (.text "ai_memory", .null)])]
  extra := []
where
  entry (node : String) (index : Value) : Value :=
    .map [(.text "type", .text "main"), (.text "node", .text node), (.text "index", index)]

/-- Two entries are left, in the second and third slot of their port. -/
theorem cleaned_invisible_litteredTable :
    litteredTable.TableDistinct
    ∧ litteredTable.cleaned.connections
      = [(.text "m", .map [(.text "ai_languageModel", .list
          [.list [], .list [entryFor "agent" 0], .list [entryFor "agent" 7]])])]
    ∧ ReverseIndex.build litteredTable.cleaned = ReverseIndex.build litteredTable
    ∧ (ReverseIndex.build litteredTable).entries
      = [("agent", [⟨"m", "ai_languageModel", 1⟩, ⟨"m", "ai_languageModel", 2⟩])]
    ∧ litteredTable.cleaned.outbound "m" "ai_languageModel" = [⟨"agent", 0⟩, ⟨"agent", 7⟩]
    ∧ Check.graph litteredTable.cleaned {} = Check.graph litteredTable {}
    ∧ litteredTable.cleaned.plan = litteredTable.plan := by
  have h : litteredTable.TableDistinct := ⟨by decide, by decide⟩
  obtain ⟨hindex, htargets, hruns, hplan⟩ := cleaned_invisible litteredTable h
  exact ⟨h, rfl, hindex, rfl, (htargets _ _).trans rfl, hruns {}, hplan⟩

end Graph

end FlowLint

import FlowLint.Proofs.Wiring.Reordering

/-!
# One more wire

An entry is put into a connection table: at some place of a slot, in a slot of its own, under a port
or a source that is there or comes in with it. Slots behind a new slot change their positions, a new
target comes into the reverse index and may stand before others, and so the index as a whole is
another one. What the checks read of it changes at one place only, which is the target of the entry
on the port of the entry.

* **`Members.Turns`**, **`SlotsGain`**: what becomes of a mapping and of the slots of a port.
* **`Graph.GainsEntry.inserted_ends`**: the table has one more wire, at some place among the others,
  and these are as they were but for their slots.
* **`Graph.GainsEntry.mainTargets_eq`**: on a port of capabilities it is none of the main targets.
* **`Check.capability_wiring_local`**: so one count grows by one, and only nodes with the name of
  the target can give anything else.
-/

namespace FlowLint

/-! ## Lists -/

/-- A list with one more item at some place. -/
def Inserted {α : Type} (item : α) (items items' : List α) : Prop :=
  ∃ before after, items = before ++ after ∧ items' = before ++ item :: after

namespace Inserted

variable {α β : Type} {item : α} {items items' : List α}

/-- Items around the list stand around the longer one too. -/
theorem append (h : Inserted item items items') (front back : List α) :
    Inserted item (front ++ items ++ back) (front ++ items' ++ back) := by
  obtain ⟨before, after, rfl, rfl⟩ := h
  refine ⟨front ++ before, after ++ back, ?_, ?_⟩
  · simp only [List.append_assoc]
  · simp only [List.append_assoc, List.cons_append]

theorem map (h : Inserted item items items') (f : α → β) :
    Inserted (f item) (items.map f) (items'.map f) := by
  obtain ⟨before, after, rfl, rfl⟩ := h
  exact ⟨before.map f, after.map f, List.map_append, by rw [List.map_append, List.map_cons]⟩

theorem countP_eq (h : Inserted item items items') (p : α → Bool) :
    items'.countP p = items.countP p + if p item then 1 else 0 := by
  obtain ⟨before, after, rfl, rfl⟩ := h
  rw [List.countP_append, List.countP_append, List.countP_cons]
  omega

/-- What does not count the item is the same as before, in the same order. -/
theorem filter_eq (h : Inserted item items items') {p : α → Bool} (hitem : p item = false) :
    items'.filter p = items.filter p := by
  obtain ⟨before, after, rfl, rfl⟩ := h
  have hdrop : (item :: after).filter p = after.filter p :=
    List.filter_cons_of_neg (Bool.eq_false_iff.1 hitem)
  rw [List.filter_append, List.filter_append, hdrop]

end Inserted

/-! ## Mappings -/

/-- A mapping in which another value has come under a text: in the place of the value that was
there, or at any place when there was none. -/
inductive Members.Turns (key : String) (R : Option Value → Value → Prop) : Members → Members → Prop
  | changed {before after : Members} {old new : Value} (related : R (some old) new) :
      Turns key R (before ++ (.text key, old) :: after) (before ++ (.text key, new) :: after)
  | added {before after : Members} {new : Value}
      (absent : Members.get? (before ++ after) key = none) (related : R none new) :
      Turns key R (before ++ after) (before ++ (.text key, new) :: after)

namespace Members

theorem texts_append (front back : Members) : texts (front ++ back) = texts front ++ texts back :=
  List.filterMap_append

theorem get?_append (front back : Members) (key : String) :
    get? (front ++ back) key = (get? front key).or (get? back key) := by
  induction front with
  | nil => rfl
  | cons member rest ih =>
    obtain ⟨k, v⟩ := member
    rw [List.cons_append, get?_cons, get?_cons, ih]
    split <;> rfl

/-- A text under which there is nothing is no key. -/
theorem ne_of_get?_eq_none {members : Members} {key : String} (h : members.get? key = none)
    {member : Scalar × Value} (hmem : member ∈ members) : member.1 ≠ .text key := by
  rw [get?, Option.map_eq_none_iff, List.find?_eq_none] at h
  intro hkey
  exact h member hmem (beq_iff_eq.2 hkey)

namespace Turns

variable {key : String} {R : Option Value → Value → Prop} {members members' : Members}

theorem distinct (h : Turns key R members members') (hdistinct : members.Distinct) :
    members'.Distinct := by
  cases h with
  | @changed before after old new related =>
    -- the keys are the same
    have hkeys : (before ++ (.text key, old) :: after).map (·.1)
        = (before ++ (.text key, new) :: after).map (·.1) := by
      rw [List.map_append, List.map_append, List.map_cons, List.map_cons]
    have hpairs : ((before ++ (.text key, old) :: after).map (·.1)).Pairwise
        fun a b => a.sameKey b = false := List.pairwise_map.2 hdistinct
    rw [hkeys] at hpairs
    exact List.pairwise_map.1 hpairs
  | @added before after new absent related =>
    have hnew : ∀ member ∈ before ++ after, Scalar.sameKey member.1 (.text key) = false := by
      intro member hmem
      rw [Bool.eq_false_iff]
      intro hsame
      exact ne_of_get?_eq_none absent hmem ((Scalar.sameKey_text_iff member.1 key).1 hsame)
    obtain ⟨hbefore, hafter, hacross⟩ := List.pairwise_append.1 hdistinct
    refine List.pairwise_append.2 ⟨hbefore, List.pairwise_cons.2 ⟨?_, hafter⟩, ?_⟩
    · intro member hmem
      rw [Scalar.sameKey_comm]
      exact hnew member (List.mem_append_right before hmem)
    · intro member hmem other hother
      rcases List.mem_cons.1 hother with rfl | hother
      · exact hnew member (List.mem_append_left after hmem)
      · exact hacross member hmem other hother

/-- Under other texts there is what there was. -/
theorem get?_of_ne (h : Turns key R members members') {other : String} (hne : key ≠ other) :
    members'.get? other = members.get? other := by
  have hkey : Scalar.text key ≠ .text other := fun hsame => hne (Scalar.text.inj hsame)
  cases h with
  | changed related => rw [get?_append, get?_append, get?_cons, get?_cons, if_neg hkey, if_neg hkey]
  | added absent related => rw [get?_append, get?_append, get?_cons, if_neg hkey]

/-- Under the text there is the new value. -/
theorem exists_get?_self (h : Turns key R members members') (hdistinct : members.Distinct) :
    ∃ new, members'.get? key = some new ∧ R (members.get? key) new := by
  cases h with
  | @changed before after old new related =>
    have hbefore : get? before key = none := by
      obtain ⟨-, -, hacross⟩ := List.pairwise_append.1 hdistinct
      rw [get?, Option.map_eq_none_iff, List.find?_eq_none]
      intro member hmem hkey
      have hsame : Scalar.sameKey member.1 (.text key) = true :=
        (Scalar.sameKey_text_iff member.1 key).2 (beq_iff_eq.1 hkey)
      rw [hacross member hmem _ List.mem_cons_self] at hsame
      exact Bool.noConfusion hsame
    refine ⟨new, ?_, ?_⟩
    · rw [get?_append, hbefore, get?_cons, if_pos rfl, Option.none_or]
    · rwa [get?_append, hbefore, get?_cons, if_pos rfl, Option.none_or]
  | @added before after new absent related =>
    have hbefore : get? before key = none := by
      rw [get?_append, Option.or_eq_none_iff] at absent
      exact absent.1
    refine ⟨new, ?_, ?_⟩
    · rw [get?_append, hbefore, get?_cons, if_pos rfl, Option.none_or]
    · rwa [absent]

/-- The members under texts are the same but for the one. -/
theorem exists_texts_eq (h : Turns key R members members') :
    ∃ (before after : List (String × Value)) (old : Option Value) (new : Value), R old new
      ∧ members.texts = before ++ (old.map fun value => (key, value)).toList ++ after
      ∧ members'.texts = before ++ (key, new) :: after := by
  cases h with
  | @changed before after old new related =>
    refine ⟨texts before, texts after, some old, new, related, ?_, ?_⟩
    · rw [texts_append, texts_cons_text, List.append_assoc]
      rfl
    · rw [texts_append, texts_cons_text]
  | @added before after new absent related =>
    refine ⟨texts before, texts after, none, new, related, ?_, ?_⟩
    · rw [texts_append, Option.map_none, Option.toList_none, List.append_nil]
    · rw [texts_append, texts_cons_text]

/-- What is made of the members under texts has one item more when what is made of the new value
has. -/
theorem inserted_flatMap_texts {β : Type} {item : β} {f : String → Value → List β}
    (h : Turns key R members members')
    (hf : ∀ old new, R old new → Inserted item (old.elim [] (f key)) (f key new)) :
    Inserted item (members.texts.flatMap fun member => f member.1 member.2)
      (members'.texts.flatMap fun member => f member.1 member.2) := by
  obtain ⟨before, after, old, new, hrelated, htexts, htexts'⟩ := h.exists_texts_eq
  have hold : ((old.map fun value => (key, value)).toList.flatMap fun member =>
      f member.1 member.2) = old.elim [] (f key) := by
    cases old with
    | none => rfl
    | some value => exact List.append_nil _
  rw [htexts, htexts', List.flatMap_append, List.flatMap_append, hold, List.flatMap_append,
    List.flatMap_cons, ← List.append_assoc]
  exact (hf old new hrelated).append _ _

end Turns

end Members

/-! ## Tables -/

/-- An entry has come into the slots of a port: at any place of a slot that is a list, or in a slot
of its own. -/
inductive SlotsGain (entry : Value) : List Value → List Value → Prop
  | inSlot {before after front back : List Value} {slot : Value}
      (items_eq : slot.items? = some (front ++ back)) :
      SlotsGain entry (before ++ slot :: after) (before ++ .list (front ++ entry :: back) :: after)
  | newSlot (before after : List Value) :
      SlotsGain entry (before ++ after) (before ++ .list [entry] :: after)

/-- An entry has come under a port, which is a list of slots; a port that was not there had none. -/
def PortGains (entry : Value) (old : Option Value) (new : Value) : Prop :=
  ∃ slots slots', old.elim (some []) Value.items? = some slots ∧ SlotsGain entry slots slots'
    ∧ new = .list slots'

/-- An entry has come under a port of a source, which is a mapping of ports; a source that was not
there had none. -/
def SourceGains (port : String) (entry : Value) (old : Option Value) (new : Value) : Prop :=
  ∃ outputs outputs' : Members, old.elim (some []) Value.members? = some outputs
    ∧ Members.Turns port (PortGains entry) outputs outputs' ∧ new = .map outputs'

/-- The graph with an entry put into its table, under a port of a source. -/
structure Graph.GainsEntry (source port : String) (entry : Value) (g g' : Graph) : Prop where
  nodes_eq : g'.nodes = g.nodes
  table_turns : g.connections.Turns source (SourceGains port entry) g'.connections

/-! ### One more wire -/

/-- The slots name one more target. -/
theorem SlotsGain.inserted {entry : Value} {slots slots' : List Value} {node : String}
    (h : SlotsGain entry slots slots') (hentry : entryNode? entry = some node) :
    Inserted node (slots.flatMap fun slot => (slot.items?.getD []).filterMap entryNode?)
      (slots'.flatMap fun slot => (slot.items?.getD []).filterMap entryNode?) := by
  cases h with
  | @inSlot before after front back slot items_eq =>
    have hslot : Inserted node ((front ++ back).filterMap entryNode?)
        ((front ++ entry :: back).filterMap entryNode?) := by
      refine ⟨front.filterMap entryNode?, back.filterMap entryNode?, List.filterMap_append, ?_⟩
      rw [List.filterMap_append, List.filterMap_cons_some hentry]
    simp only [List.flatMap_append, List.flatMap_cons, items_eq, Value.items?_list,
      Option.getD_some, ← List.append_assoc]
    exact hslot.append _ _
  | newSlot before after =>
    have hslot : [entry].filterMap entryNode? = [node] := List.filterMap_cons_some hentry
    refine ⟨_, _, List.flatMap_append, ?_⟩
    rw [List.flatMap_append, List.flatMap_cons, Value.items?_list, Option.getD_some, hslot]
    rfl

theorem ends_portWires_list (source port : String) (slots : List Value) :
    (portWires source port (.list slots)).map Wire.ends
      = (slots.flatMap fun slot => (slot.items?.getD []).filterMap entryNode?).map fun target =>
          (target, source, port) := by
  rw [ends_portWires, Value.items?_list, Option.getD_some, List.map_flatMap]

/-- The port has one more wire. -/
theorem PortGains.inserted {entry : Value} {old : Option Value} {new : Value} {node : String}
    (h : PortGains entry old new) (hentry : entryNode? entry = some node) (source port : String) :
    Inserted (node, source, port)
      (old.elim [] fun slots => (portWires source port slots).map Wire.ends)
      ((portWires source port new).map Wire.ends) := by
  obtain ⟨slots, slots', hslots, hgain, rfl⟩ := h
  -- the wires before are those of the slots, whichever way these stand there
  have hold : (old.elim [] fun slots => (portWires source port slots).map Wire.ends)
      = (portWires source port (.list slots)).map Wire.ends := by
    cases old with
    | none =>
      cases hslots
      rfl
    | some value =>
      have hitems : value.items? = some slots := hslots
      rw [Option.elim_some, ends_portWires, ends_portWires, hitems, Value.items?_list]
  rw [hold, ends_portWires_list, ends_portWires_list]
  exact (hgain.inserted hentry).map fun target => (target, source, port)

/-- The source has one more wire. -/
theorem SourceGains.inserted {port : String} {entry : Value} {old : Option Value} {new : Value}
    {node : String} (h : SourceGains port entry old new) (hentry : entryNode? entry = some node)
    (source : String) :
    Inserted (node, source, port)
      (old.elim [] fun outputs => (sourceWires source outputs).map Wire.ends)
      ((sourceWires source new).map Wire.ends) := by
  obtain ⟨outputs, outputs', houtputs, hturns, rfl⟩ := h
  have hports : ∀ members : Members, ∀ value : Value, value.members?.getD [] = members →
      (sourceWires source value).map Wire.ends
        = members.texts.flatMap fun member =>
            (portWires source member.1 member.2).map Wire.ends := by
    intro members value hmembers
    rw [sourceWires, hmembers, List.map_flatMap]
  have hold : (old.elim [] fun outputs => (sourceWires source outputs).map Wire.ends)
      = (Members.texts outputs).flatMap fun member =>
          (portWires source member.1 member.2).map Wire.ends := by
    cases old with
    | none =>
      cases houtputs
      rfl
    | some value =>
      have hmembers : value.members? = some outputs := houtputs
      exact hports outputs value (by rw [hmembers, Option.getD_some])
  rw [hold, hports outputs' (.map outputs') rfl]
  exact hturns.inserted_flatMap_texts
    (f := fun port slots => (portWires source port slots).map Wire.ends)
    fun _ _ hport => hport.inserted hentry source port

namespace Graph.GainsEntry

variable {source port : String} {entry : Value} {g g' : Graph}

/-- **The table has one more wire**, at some place among the others. -/
theorem inserted_ends (h : g.GainsEntry source port entry g') {node : String}
    (hentry : entryNode? entry = some node) :
    Inserted (node, source, port) (g.wires.map Wire.ends) (g'.wires.map Wire.ends) := by
  rw [wires, wires, List.map_flatMap, List.map_flatMap]
  exact h.table_turns.inserted_flatMap_texts
    (f := fun source outputs => (sourceWires source outputs).map Wire.ends)
    fun _ _ hsource => hsource.inserted hentry source

theorem tableDistinct (h : g.GainsEntry source port entry g') (hdistinct : g.TableDistinct) :
    g'.TableDistinct where
  sources := h.table_turns.distinct hdistinct.sources
  ports := by
    have hnew : ∀ old new, SourceGains port entry old new →
        (∀ value, old = some value → (value.members?.getD []).Distinct) →
        (new.members?.getD []).Distinct := by
      rintro old new ⟨outputs, outputs', houtputs, hturns, rfl⟩ hold
      refine hturns.distinct ?_
      cases old with
      | none =>
        cases houtputs
        exact .nil
      | some value =>
        have hmembers : value.members? = some outputs := houtputs
        have hvalue := hold value rfl
        rwa [hmembers] at hvalue
    obtain ⟨-, hports⟩ := hdistinct
    have hturns := h.table_turns
    generalize g.connections = table at hports hturns
    generalize g'.connections = table' at hturns
    intro member hmem
    cases hturns with
    | changed related =>
      rcases List.mem_append.1 hmem with hmem | hmem
      · exact hports member (List.mem_append_left _ hmem)
      · rcases List.mem_cons.1 hmem with rfl | hmem
        · refine hnew _ _ related fun value hvalue => ?_
          cases hvalue
          exact hports _ (List.mem_append_right _ List.mem_cons_self)
        · exact hports member (List.mem_append_right _ (List.mem_cons_of_mem _ hmem))
    | added absent related =>
      rcases List.mem_append.1 hmem with hmem | hmem
      · exact hports member (List.mem_append_left _ hmem)
      · rcases List.mem_cons.1 hmem with rfl | hmem
        · exact hnew _ _ related nofun
        · exact hports member (List.mem_append_right _ hmem)

/-! ### What is read of the table -/

/-- Ports other than the one are as they were. -/
theorem get?_outputs_of_ne (h : g.GainsEntry source port entry g') (hdistinct : g.TableDistinct)
    (name : String) {other : String} (hne : port ≠ other) :
    (g'.outputs name).get? other = (g.outputs name).get? other := by
  by_cases hname : source = name
  · subst hname
    obtain ⟨new, hget, outputs, outputs', houtputs, hturns, rfl⟩ :=
      h.table_turns.exists_get?_self hdistinct.sources
    have hnew : g'.outputs source = outputs' := outputs_eq_of_get? hget
    have hold : g.outputs source = outputs := by
      unfold Graph.outputs
      generalize g.connections.get? source = old at houtputs ⊢
      cases old with
      | none => exact Option.some.inj houtputs
      | some value =>
        have hmembers : value.members? = some outputs := houtputs
        rw [Option.bind_some, hmembers, Option.getD_some]
    rw [hnew, hold]
    exact hturns.get?_of_ne hne
  · unfold Graph.outputs
    rw [h.table_turns.get?_of_ne hname]

/-- **Main targets are as they were**, when the entry is put under another port. -/
theorem mainTargets_eq (h : g.GainsEntry source port entry g') (hdistinct : g.TableDistinct)
    (hport : port ≠ Port.main.name) (name : String) : g'.mainTargets name = g.mainTargets name := by
  unfold mainTargets outbound slots
  rw [h.get?_outputs_of_ne hdistinct name hport]

/-- One count grows by one, and the others are as they were. -/
theorem length_inbound (h : g.GainsEntry source port entry g') (hdistinct : g.TableDistinct)
    {node : String} (hentry : entryNode? entry = some node) (name other : String) :
    ((ReverseIndex.build g').inbound name other).length
      = ((ReverseIndex.build g).inbound name other).length
        + if name = node ∧ other = port then 1 else 0 := by
  have hcount : ∀ graph : Graph, graph.TableDistinct →
      ((ReverseIndex.build graph).inbound name other).length
        = (graph.wires.map Wire.ends).countP fun ends => ends.2.2 == other && ends.1 == name := by
    intro graph hgraph
    rw [ReverseIndex.inbound_build hgraph, List.length_map, List.countP_map,
      List.countP_eq_length_filter]
    rfl
  rw [hcount g' (h.tableDistinct hdistinct), hcount g hdistinct, (h.inserted_ends hentry).countP_eq]
  congr 1
  refine if_congr ?_ rfl rfl
  rw [Bool.and_eq_true, beq_iff_eq, beq_iff_eq]
  exact ⟨fun ⟨hother, hname⟩ => ⟨hname.symm, hother.symm⟩,
    fun ⟨hname, hother⟩ => ⟨hother.symm, hname.symm⟩⟩

/-- The sources of main edges are as they were, in their order. -/
theorem sources_eq (h : g.GainsEntry source port entry g') (hdistinct : g.TableDistinct)
    {node : String} (hentry : entryNode? entry = some node) (hport : port ≠ Port.main.name)
    (name : String) :
    ((ReverseIndex.build g').inbound name Port.main.name).map (·.source)
      = ((ReverseIndex.build g).inbound name Port.main.name).map (·.source) := by
  have hread : ∀ graph : Graph, graph.TableDistinct →
      ((ReverseIndex.build graph).inbound name Port.main.name).map (·.source)
        = ((graph.wires.map Wire.ends).filter fun ends =>
            ends.2.2 == Port.main.name && ends.1 == name).map fun ends => ends.2.1 := by
    intro graph hgraph
    rw [ReverseIndex.inbound_build hgraph, List.map_map, List.filter_map, List.map_map]
    rfl
  -- the new wire is on another port, and is passed over
  have hnot : (port == Port.main.name && node == name) = false := by
    rw [beq_eq_false_iff_ne.2 hport, Bool.false_and]
  rw [hread g' (h.tableDistinct hdistinct), hread g hdistinct,
    (h.inserted_ends hentry).filter_eq hnot]

end Graph.GainsEntry

/-! ## What the checks see -/

namespace Check

/-- A node of another name than the target looks the same to the checks. -/
theorem matches_of_gainsEntry {source port : String} {entry : Value} {g g' : Graph}
    (h : g.GainsEntry source port entry g') (hdistinct : g.TableDistinct) {target : String}
    (hentry : entryNode? entry = some target) (hport : port ≠ Port.main.name)
    (settings : Settings) {n : Node} (hname : n.name ≠ target) :
    Matches id id (.of g settings) (.of g' settings) n n := by
  refine .of_same rfl ?_ ?_ ?_ (h.mainTargets_eq hdistinct hport)
  · funext kind
    have hlength := h.length_inbound hdistinct hentry n.name kind.name
    rwa [if_neg fun hsame => hname hsame.1, Nat.add_zero] at hlength
  · have hsources := h.sources_eq hdistinct hentry hport n.name
    have hnodes : g'.node? = g.node? := by
      funext name
      rw [Graph.node?, Graph.node?, h.nodes_eq]
    have hany : ∀ graph : Graph, Rules.isStreamingTarget (.of graph settings) n
        = (((ReverseIndex.build graph).inbound n.name Port.main.name).map (·.source)).any
            fun source => (graph.node? source).any Rules.isStreamingSource := by
      intro graph
      rw [List.any_map]
      rfl
    rw [hany, hany, hsources, hnodes]
  · intro name
    show g'.node? name = g.node? name
    rw [Graph.node?, Graph.node?, h.nodes_eq]

/-- **Wiring a capability is local.** One more entry on a port of capabilities makes the count of
its target on this port greater by one and no other count, leaves the main targets of all sources as
they are, and changes nothing of what nodes with other names than the target give. -/
theorem capability_wiring_local (g g' : Graph) (hdistinct : g.TableDistinct)
    {source port : String} {entry : Value} {target : Target}
    (hentry : Target.ofValue? entry = some target) (hport : port ≠ Port.main.name)
    (h : g.GainsEntry source port entry g') :
    (∀ name other, ((ReverseIndex.build g').inbound name other).length
        = ((ReverseIndex.build g).inbound name other).length
          + if name = target.node ∧ other = port then 1 else 0)
    ∧ (∀ name, g'.mainTargets name = g.mainTargets name)
    ∧ ∀ (settings : Settings) (n : Node), n.name ≠ target.node →
        node (.of g' settings) n = node (.of g settings) n := by
  have hnode : entryNode? entry = some target.node := by
    rw [← map_node_ofValue?, hentry, Option.map_some]
  refine ⟨h.length_inbound hdistinct hnode, h.mainTargets_eq hdistinct hport, ?_⟩
  intro settings n hname
  exact (matches_of_gainsEntry h hdistinct hnode hport settings hname).node_eq_of_id

/-- A chat that streams to two agents of one name, and a chain with a model. -/
def twinAgents (connections : Members) : Graph where
  name := none
  nodes := [chat, agent, agent, chain]
  connections := connections
  extra := []
where
  chat : Node :=
    ⟨none, "chat", NodeType.chatTriggerType, .int 1,
      [(.text "responseMode", .text "streaming")], [], false, []⟩
  agent : Node := ⟨none, "agent", NodeType.agentType, .int 1, [], [], false, []⟩
  chain : Node := ⟨none, "chain", NodeType.basicChainType, .int 1, [], [], false, []⟩

namespace twinAgents

def entry (node : String) : Value := .map [(.text "node", .text node)]

/-- The model stands among sources and ports that are no texts, behind a slot that is no list. -/
def table (targets : List Value) : Members :=
  [(.text "chat", .map [(.text "main", .list [.list [entry "agent"]])]),
    (.int 1, .text "chain"),
    (.text "model", .map
      [(.bool true, .list []), (.text "ai_languageModel", .list [.null, .list targets])])]

theorem gainsEntry :
    (twinAgents (table [entry "chain", .text "agent"])).GainsEntry "model" "ai_languageModel"
      (entry "agent") (twinAgents (table [entry "chain", entry "agent", .text "agent"])) where
  nodes_eq := rfl
  table_turns := by
    refine @Members.Turns.changed _ _ ((table []).take 2) [] _ _ ⟨_, _, rfl, ?_, rfl⟩
    refine @Members.Turns.changed _ _ [(.bool true, .list [])] [] _ _ ⟨_, _, rfl, ?_, rfl⟩
    exact @SlotsGain.inSlot _ [.null] [] [entry "chain"] [.text "agent"] _ rfl

end twinAgents

/-- The model is wired to the agent between two entries of its slot. The agent has a model then, and
the chain and the chat give what they gave. -/
theorem capability_wiring_local_twinAgents :
    (twinAgents (twinAgents.table [twinAgents.entry "chain", .text "agent"])).TableDistinct
    ∧ Target.ofValue? (twinAgents.entry "agent") = some ⟨"agent", 0⟩
    ∧ "ai_languageModel" ≠ Port.main.name
    ∧ ((ReverseIndex.build (twinAgents (twinAgents.table
        [twinAgents.entry "chain", twinAgents.entry "agent", .text "agent"]))).inbound
          "agent" "ai_languageModel").length = 1
    ∧ ((ReverseIndex.build (twinAgents (twinAgents.table
        [twinAgents.entry "chain", twinAgents.entry "agent", .text "agent"]))).inbound
          "chain" "ai_languageModel").length = 1
    ∧ (twinAgents (twinAgents.table
        [twinAgents.entry "chain", twinAgents.entry "agent", .text "agent"])).mainTargets "chat"
      = [⟨"agent", 0⟩]
    ∧ node (.of (twinAgents (twinAgents.table
        [twinAgents.entry "chain", twinAgents.entry "agent", .text "agent"])) {}) twinAgents.chain
      = .ok []
    ∧ node (.of (twinAgents (twinAgents.table [twinAgents.entry "chain", .text "agent"])) {})
        twinAgents.agent
      = .ok [⟨.error .agentWithoutModel, "AI Agent", none, "agent"⟩,
          ⟨.info .missingSystemMessage, "AI Agent", none, "agent"⟩,
          ⟨.info .noToolsConnected, "AI Agent", none, "agent"⟩]
    ∧ node (.of (twinAgents (twinAgents.table
        [twinAgents.entry "chain", twinAgents.entry "agent", .text "agent"])) {}) twinAgents.agent
      = .ok [⟨.info .missingSystemMessage, "AI Agent", none, "agent"⟩,
          ⟨.info .noToolsConnected, "AI Agent", none, "agent"⟩] := by
  have hdistinct :
      (twinAgents (twinAgents.table [twinAgents.entry "chain", .text "agent"])).TableDistinct :=
    ⟨by decide, by decide⟩
  have hentry : Target.ofValue? (twinAgents.entry "agent") = some ⟨"agent", 0⟩ := rfl
  have hport : "ai_languageModel" ≠ Port.main.name := by decide
  obtain ⟨hlength, htargets, hnodes⟩ :=
    capability_wiring_local _ _ hdistinct hentry hport twinAgents.gainsEntry
  refine ⟨hdistinct, hentry, hport, hlength "agent" "ai_languageModel",
    hlength "chain" "ai_languageModel", htargets "chat", ?_, rfl, rfl⟩
  exact hnodes {} twinAgents.chain (by decide)

end Check

end FlowLint

import FlowGraph.Encoding.StoredGraph
import FlowGraph.Proofs.Json.Reader
import FlowGraph.Proofs.OrderedMap

/-!
The text of a stored graph holds all of it. Every part of a stored graph is read from the document
it is written as (`StoredGraph.reads_toJson`), and the only limit is how deep a text may nest, of
which the levels of the stored graph itself take five.
-/

set_option autoImplicit false
set_option relaxedAutoImplicit false

namespace FlowGraph

open Json

theorem Kind.reads_toJson (kind : Kind) : Reads Kind.read kind.toJson kind := by
  intro source
  cases kind <;> exact (source.permit_zero _).symm

theorem NodeId.reads_toJson (id : NodeId) : Reads NodeId.read id.toJson id :=
  (reads_text id.text).bind (by rw [parse?_text]; rfl)

namespace Box

theorem create_eq (box : Box) : create box.kind box.payload = .ok box :=
  dif_pos box.fits

theorem reads_toJson (box : Box) (ordered : box.payload.everywhere isOrdered = true) :
    Reads Box.read box.toJson box := by
  have hparts : Reads (readFields fields {}) box.toJson ⟨some box.kind, some box.payload⟩ :=
    reads_fields
      (.cons (takes_of_field rfl rfl (box.kind.reads_toJson.bind rfl))
      (.cons (takes_of_field rfl rfl ((reads_json ordered).bind rfl))
      (.nil _))) rfl
  refine hparts.bind ?_
  dsimp only
  rw [create_eq]
  rfl

end Box

namespace Boxes

theorem reads_toJson (boxes : Boxes)
    (ordered : ∀ box ∈ boxes.values, box.payload.everywhere isOrdered = true) :
    Reads Boxes.read boxes.toJson boxes := by
  have hentries : Reads (readEntries Box.read) boxes.toJson boxes.entries :=
    reads_entries fun entry hentry ↦
      entry.2.reads_toJson (ordered entry.2 (List.mem_map_of_mem hentry))
  refine hentries.bind ?_
  rw [OrderedMap.ofList_entries]
  rfl

end Boxes

namespace StoredNode

theorem reads_toJson (node : StoredNode)
    (ordered : ∀ box ∈ node.settings.values, box.payload.everywhere isOrdered = true) :
    Reads StoredNode.read node.toJson node := by
  have hparts : Reads (readFields fields {}) node.toJson
      ⟨some node.id, some node.typeIdentifier, some node.settings⟩ :=
    reads_fields
      (.cons (takes_of_field rfl rfl (node.id.reads_toJson.bind rfl))
      (.cons (takes_of_field rfl rfl ((reads_text node.typeIdentifier).bind rfl))
      (.cons (takes_of_field rfl rfl ((node.settings.reads_toJson ordered).bind rfl))
      (.nil _)))) rfl
  exact hparts.bind rfl

end StoredNode

namespace StoredConnection

theorem reads_toJson (connection : StoredConnection) :
    Reads StoredConnection.read connection.toJson connection := by
  have hparts : Reads (readFields fields {}) connection.toJson
      ⟨some connection.source, some connection.sourceName, some connection.target,
        some connection.targetName⟩ :=
    reads_fields
      (.cons (takes_of_field rfl rfl (connection.source.reads_toJson.bind rfl))
      (.cons (takes_of_field rfl rfl ((reads_text connection.sourceName).bind rfl))
      (.cons (takes_of_field rfl rfl (connection.target.reads_toJson.bind rfl))
      (.cons (takes_of_field rfl rfl ((reads_text connection.targetName).bind rfl))
      (.nil _))))) rfl
  exact hparts.bind rfl

end StoredConnection

namespace StoredGraph

/-- All payloads in the settings of a stored graph. -/
def payloads (stored : StoredGraph) : List Json :=
  stored.nodes.flatMap fun node ↦ node.settings.values.map Box.payload

variable {stored : StoredGraph}

theorem mem_payloads_iff {payload : Json} :
    payload ∈ stored.payloads ↔
      ∃ node ∈ stored.nodes, ∃ box ∈ node.settings.values, box.payload = payload := by
  simp [payloads]

theorem reads_toJson (stored : StoredGraph)
    (ordered : ∀ payload ∈ stored.payloads, payload.everywhere isOrdered = true) :
    Reads StoredGraph.read stored.toJson stored := by
  have hnodes : ∀ node ∈ stored.nodes, Reads StoredNode.read node.toJson node :=
    fun node hnode ↦ node.reads_toJson fun box hbox ↦
      ordered box.payload (mem_payloads_iff.mpr ⟨node, hnode, box, hbox, rfl⟩)
  have hconnections : ∀ connection ∈ stored.connections,
      Reads StoredConnection.read connection.toJson connection :=
    fun connection _ ↦ connection.reads_toJson
  have hparts : Reads (readFields fields {}) stored.toJson
      ⟨some stored.nodes, some stored.connections⟩ :=
    reads_fields
      (.cons (takes_of_field rfl rfl ((reads_list hnodes).bind rfl))
      (.cons (takes_of_field rfl rfl ((reads_list hconnections).bind rfl))
      (.nil _))) rfl
  exact hparts.bind rfl

/-- Only payloads hold numbers. -/
theorem everywhere_isIntegral_toJson
    (integral : ∀ payload ∈ stored.payloads, payload.everywhere isIntegral = true) :
    stored.toJson.everywhere isIntegral = true := by
  have hboxes : ∀ node ∈ stored.nodes, node.settings.toJson.everywhere isIntegral = true := by
    intro node hnode
    rw [Boxes.toJson, everywhere, Bool.and_eq_true, membersEverywhere_map_iff]
    refine ⟨rfl, fun entry hentry ↦ ?_⟩
    have hpayload := integral entry.2.payload
      (mem_payloads_iff.mpr ⟨node, hnode, entry.2, List.mem_map_of_mem hentry, rfl⟩)
    simp [Box.toJson, Kind.toJson, everywhere, membersEverywhere, isIntegral, hpayload]
  have hnodes : ∀ node ∈ stored.nodes, node.toJson.everywhere isIntegral = true := by
    intro node hnode
    simp [StoredNode.toJson, NodeId.toJson, everywhere, membersEverywhere, isIntegral,
      hboxes node hnode]
  have hconnections : ∀ connection ∈ stored.connections,
      connection.toJson.everywhere isIntegral = true :=
    fun _ _ ↦ rfl
  simp [toJson, everywhere, membersEverywhere, itemsEverywhere_map_iff.mpr hnodes,
    itemsEverywhere_map_iff.mpr hconnections, isIntegral]

/-- A text nests too deep for a reader exactly when a payload does in it, which lies inside five
levels of the stored graph. -/
theorem lt_depth_toJson_iff {bound : Nat} (hbound : 5 ≤ bound) :
    bound < stored.toJson.depth ↔ ∃ payload ∈ stored.payloads, bound < 5 + payload.depth := by
  have hbox (box : Box) : box.toJson.depth = box.payload.depth + 1 := by
    simp [Box.toJson, Kind.toJson, depth, membersDepth]
  have hnode (node : StoredNode) : node.toJson.depth =
      membersDepth (node.settings.entries.map fun entry ↦ (entry.1, entry.2.toJson)) + 2 := by
    simp [StoredNode.toJson, NodeId.toJson, Boxes.toJson, depth, membersDepth]
  have hconnections : itemsDepth (stored.connections.map StoredConnection.toJson) ≤ 1 := by
    refine Nat.le_of_not_lt fun hlt ↦ ?_
    obtain ⟨connection, -, hdepth⟩ := lt_itemsDepth_map_iff.mp hlt
    exact absurd hdepth (Nat.lt_irrefl 1)
  have hstored : bound < stored.toJson.depth ↔
      bound - 2 < itemsDepth (stored.nodes.map StoredNode.toJson) := by
    simp only [toJson, depth, membersDepth]
    omega
  rw [hstored, lt_itemsDepth_map_iff]
  simp only [hnode]
  constructor
  · rintro ⟨node, hmem, hlt⟩
    obtain ⟨entry, hentry, hdepth⟩ := lt_membersDepth_map_iff.mp
      (show bound - 4 < membersDepth (node.settings.entries.map fun entry ↦
        (entry.1, entry.2.toJson)) by omega)
    rw [hbox] at hdepth
    exact ⟨entry.2.payload,
      mem_payloads_iff.mpr ⟨node, hmem, entry.2, List.mem_map_of_mem hentry, rfl⟩, by omega⟩
  · rintro ⟨payload, hpayload, hlt⟩
    obtain ⟨node, hmem, box, hbox', rfl⟩ := mem_payloads_iff.mp hpayload
    obtain ⟨entry, hentry, rfl⟩ := List.mem_map.mp hbox'
    have hdepth := lt_membersDepth_map_iff.mpr
      ⟨entry, hentry, show bound - 4 < entry.2.toJson.depth by rw [hbox]; omega⟩
    exact ⟨node, hmem, by omega⟩

/-- The text of a stored graph holds all of it. Where all payloads are documents that a text can
hold, with integers of 64 bits for numbers and the members of objects in order, and the text nests
at most 127 deep, it is read as the stored graph that it was printed from. It nests deeper exactly
when some payload nests deeper than 122 levels, five having been taken around it; then it is refused
as malformed and nothing is read. -/
theorem parse_print_of_exact (stored : StoredGraph)
    (exactPayloads : ∀ payload ∈ stored.payloads, payload.isExact = true) :
    (stored.toJson.depth ≤ 127 → parse stored.print = .ok stored) ∧
      (127 < stored.toJson.depth → parse stored.print = .error .malformed) ∧
      (127 < stored.toJson.depth ↔ ∃ payload ∈ stored.payloads, 127 < 5 + payload.depth) := by
  have hexact : ∀ payload ∈ stored.payloads,
      payload.everywhere isIntegral = true ∧ payload.everywhere isOrdered = true :=
    fun payload hpayload ↦ (Bool.and_eq_true _ _).mp (exactPayloads payload hpayload)
  have hparse : parse stored.print = Source.text.permit stored.toJson.depth stored :=
    readWhole_print (reads_toJson stored fun payload hpayload ↦ (hexact payload hpayload).2)
      (everywhere_isIntegral_toJson fun payload hpayload ↦ (hexact payload hpayload).1)
  rw [hparse]
  refine ⟨fun hfits ↦ if_pos ?_, fun hdeep ↦ if_neg ?_, lt_depth_toJson_iff (by omega)⟩
  · simpa [Source.text] using hfits
  · simpa [Source.text] using hdeep

/-- Arrays around `null`, so many of them. -/
def nested : Nat → Json
  | 0 => .null
  | levels + 1 => .array [nested levels]

theorem depth_nested (levels : Nat) : (nested levels).depth = levels := by
  induction levels with
  | zero => rfl
  | succ levels ih => simp [nested, depth, itemsDepth, ih]

theorem everywhere_nested {test : Json → Bool} (hnull : test .null = true)
    (harray : ∀ items, test (.array items) = true) (levels : Nat) :
    (nested levels).everywhere test = true := by
  induction levels with
  | zero => simpa [nested, everywhere] using hnull
  | succ levels ih => simp [nested, everywhere, itemsEverywhere, harray, ih]

theorem isExact_nested (levels : Nat) : (nested levels).isExact = true := by
  rw [isExact, everywhere_nested rfl (fun _ ↦ rfl), everywhere_nested rfl (fun _ ↦ rfl)]
  rfl

/-- One node with one setting. -/
def holding (payload : Json) : StoredGraph :=
  ⟨[⟨.ofNat 1, "json-filter", .ofList [("data", .json payload)]⟩], []⟩

theorem exact_holding (levels : Nat) :
    ∀ payload ∈ (holding (nested levels)).payloads, payload.isExact = true := by
  intro payload hpayload
  rw [List.mem_singleton.mp hpayload]
  exact isExact_nested levels

theorem depth_holding (levels : Nat) :
    (holding (nested levels)).toJson.depth = levels + 5 := by
  have hsettings : (Boxes.toJson (.ofList [("data", .json (nested levels))])).depth =
      levels + 2 := by
    show (Json.object [("data", (Box.json (nested levels)).toJson)]).depth = levels + 2
    simp [Box.toJson, Box.json, Kind.toJson, depth, membersDepth, depth_nested]
  simp [holding, toJson, StoredNode.toJson, NodeId.toJson, depth, itemsDepth, membersDepth,
    hsettings]

theorem parse_print_of_exact_holding :
    (∀ payload ∈ (holding (nested 122)).payloads, payload.isExact = true) ∧
      (holding (nested 122)).toJson.depth ≤ 127 ∧
      parse (holding (nested 122)).print = .ok (holding (nested 122)) ∧
      (∀ payload ∈ (holding (nested 123)).payloads, payload.isExact = true) ∧
      127 < (holding (nested 123)).toJson.depth ∧
      parse (holding (nested 123)).print = .error .malformed := by
  have hfits : (holding (nested 122)).toJson.depth ≤ 127 := Nat.le_of_eq (depth_holding 122)
  have hdeep : 127 < (holding (nested 123)).toJson.depth :=
    Nat.lt_of_lt_of_eq (by omega) (depth_holding 123).symm
  exact ⟨exact_holding 122, hfits, (parse_print_of_exact _ (exact_holding 122)).1 hfits,
    exact_holding 123, hdeep, (parse_print_of_exact _ (exact_holding 123)).2.1 hdeep⟩

end StoredGraph

end FlowGraph

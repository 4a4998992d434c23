import FlowGraph.Unicode.Age
import FlowGraph.Unicode.Boundary
import FlowGraph.Unicode.ScriptExtension

/-!
Sets of characters by the name of a property, or by the names of a property and of its value.
-/

set_option autoImplicit false
set_option relaxedAutoImplicit false

namespace FlowGraph.Unicode

/-- A name alone is that of a property that a character has or has not, of a general category, or of
a script. -/
def named? (name : String) : Option CharSet :=
  findSet? (Property.values ++ GeneralCategory.values ++ Script.values) name

/-- The properties that have values, and the values. -/
def valuedProperties : List (List String × List NamedSet) :=
  [(["gc", "General_Category"], GeneralCategory.values),
    (["sc", "Script"], Script.values),
    (["scx", "Script_Extensions"], ScriptExtension.values),
    (["Age"], Age.values),
    (["GCB", "Grapheme_Cluster_Break"], Boundary.graphemeValues),
    (["WB", "Word_Break"], Boundary.wordValues),
    (["SB", "Sentence_Break"], Boundary.sentenceValues)]

def valued? (property value : String) : Option CharSet :=
  let wanted := looseName property
  match valuedProperties.find? fun entry ↦ entry.1.any fun known ↦ looseName known = wanted with
  | some entry => findSet? entry.2 value
  | none => none

/-- The characters of words: letters, marks, digits, the likes of the underscore, and the two
characters that join and part letters. -/
def wordChars : Thunk CharSet :=
  .mk fun _ ↦ .unionAll
    [Property.alphabetic.get, GeneralCategory.mark.get, GeneralCategory.decimalNumber.get,
      GeneralCategory.connectorPunctuation.get, Property.joinControl.get]

end FlowGraph.Unicode

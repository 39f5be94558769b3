import Runbook.Markdown.Block

/-!
# Emitters

An emitter writes one document after the other with the same settings. It keeps the cache of the
document that it wrote last, and every document starts with an empty one.
-/

namespace Runbook

/-- The settings of an emitter, and its cache. -/
structure Emitter where
  config : Config := {}
  cache : Cache := {}
deriving Repr, Inhabited

namespace Emitter

/-- Writes a document. What was looked up stays in the cache, also if the document fails. -/
def emit (emitter : Emitter) (document : Document) : Except EmitError String × Emitter :=
  let (result, cache) :=
    (document.emit emitter.config).run emitter.config.queryTool emitter.cache.clear
  (result, { emitter with cache })

end Emitter

end Runbook

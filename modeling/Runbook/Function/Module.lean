import Runbook.Function.Registry

/-!
# The runtime module

The functions of a build become one module that a document calls by name. It has sections: what it
is, imports, constants, the functions, the table of their names, and the entry point.
-/

namespace Runbook

/-- The imports of the module itself. -/
def runtimeImports : List String :=
  ["import asyncio as _asyncio", "import inspect as _inspect", "import json as _json",
    "import sys as _sys"]

/-- The entry point: it calls a function by name with JSON and prints its result as JSON. -/
def entryPoint : String :=
  Text.join "\n"
    ["def main(argv=None):",
      "    argv = _sys.argv[1:] if argv is None else argv",
      "    if not argv:",
      "        print(_json.dumps(\x7b\"error\": \"usage: runtime.py <function> [json-args]\"\x7d))",
      "        return 2",
      "    fn = REGISTRY.get(argv[0])",
      "    if fn is None:",
      "        print(_json.dumps(\x7b\"error\": f\"unknown function: \x7bargv[0]\x7d\"\x7d))",
      "        return 2",
      "    args = _json.loads(argv[1]) if len(argv) > 1 and argv[1] else \x7b\x7d",
      "    result = fn(args)",
      "    if _inspect.isawaitable(result):",
      "        result = _asyncio.run(result)",
      "    print(_json.dumps(result))",
      "    return 0",
      "",
      "",
      "if __name__ == \"__main__\":",
      "    _sys.exit(main())"]

/-- How the module presents itself. -/
structure ModuleTitle where
  title : String := ""
  command : String := "python3"
  module : String := "runtime.py"
deriving DecidableEq, Repr, Inhabited

namespace ModuleTitle

def text (title : ModuleTitle) : String :=
  let heading := if title.title.isEmpty then "Runtime" else title.title ++ " runtime"
  "\"\"\"\n" ++ heading ++ " — Staged functions invoked by the compiled document.\n\nUsage: " ++
    title.command ++ " " ++ title.module ++ " <function> '<json-args>'\n\"\"\""

end ModuleTitle

namespace Registry

def moduleImports (registry : Registry) : List String :=
  Text.distinct (runtimeImports ++ registry.functions.flatMap Handle.imports)

/-- All constants of the module, each once, in the order of first use. -/
def moduleConstants (registry : Registry) : List String :=
  Text.distinct (registry.functions.flatMap Handle.constants)

/-- The imports: whole modules first, and each kind sorted. -/
def importSection (registry : Registry) : String :=
  Text.join "\n"
    (Text.sort (registry.moduleImports.filter (Text.startsWith "import ")) ++
      Text.sort (registry.moduleImports.filter (Text.startsWith "from ")))

/-- The entry of a function in the table. -/
def tableLine (handle : Handle) : String :=
  "    \"" ++ handle.name ++ "\": " ++ handle.name ++ ","

def tableSection (registry : Registry) : String :=
  Text.join "\n" ("REGISTRY = \x7b" :: registry.functions.map tableLine ++ ["\x7d"])

def moduleSections (registry : Registry) (title : ModuleTitle) : List String :=
  [title.text, registry.importSection] ++
    (if registry.moduleConstants.isEmpty then [] else [Text.join "\n" registry.moduleConstants]) ++
    registry.functions.map Handle.source ++ [registry.tableSection, entryPoint]

/-- The runtime module; there is none without functions. -/
def moduleText (registry : Registry) (title : ModuleTitle) : Option String :=
  if registry.functions.isEmpty then none
  else some (Text.join "\n\n\n" (registry.moduleSections title) ++ "\n")

end Registry

end Runbook

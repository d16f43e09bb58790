/-!
# Manifests

The manifest of a generated project: how it is built, its name, what it depends on, and the command
that starts it.  The name is put in as it stands.

## What is here

* `manifestLines`, `manifestText` — the manifest for a name.
-/

set_option autoImplicit false

namespace EntityService

/-- The lines of the manifest of a project. -/
def manifestLines (name : String) : List String :=
  ["[build-system]",
    "requires = [\"setuptools>=61\"]",
    "build-backend = \"setuptools.build_meta\"",
    "",
    "[project]",
    "name = \"" ++ name ++ "\"",
    "version = \"0.1.0\"",
    "requires-python = \">=3.9\"",
    "dependencies = [",
    "    \"asyncpg>=0.27\",",
    "    \"fastapi>=0.100\",",
    "    \"pydantic>=2\",",
    "    \"uvicorn>=0.22\",",
    "]",
    "",
    "[project.scripts]",
    "\"" ++ name ++ "\" = \"main:main\"",
    "",
    "[tool.setuptools]",
    "package-dir = \x7b\"\" = \"src\"\x7d",
    "py-modules = [\"main\"]"]

/-- The manifest of a project. -/
def manifestText (name : String) : String :=
  String.join ((manifestLines name).map fun line => line ++ "\n")

end EntityService

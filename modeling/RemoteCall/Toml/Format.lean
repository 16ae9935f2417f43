import RemoteCall.Toml.Document
import RemoteCall.Toml.Sections

/-! How documents of sections are written as texts, and texts are read as documents. -/

namespace RemoteCall.Toml

/-- A writer of documents, and a reader of them. -/
structure Format where
  write : Sections → String
  parse? : String → Option Table

/-- The format with a reader of whole documents, and a writer that quotes texts as it has to. -/
def Format.standard : Format where
  write := Sections.write
  parse? := Table.parse?

end RemoteCall.Toml

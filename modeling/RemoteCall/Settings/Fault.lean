import RemoteCall.Typed.Mismatch

/-! Why a text gives no settings. -/

namespace RemoteCall

/-- What keeps a text from being read as settings. -/
inductive SettingsFault where
  /-- The text is no document. -/
  | noDocument
  | mismatch (cause : Mismatch)
  /-- A name that is none of those to choose from. -/
  | unknownChoice (name : String) (choices : List String)
  /-- Neither a name nor anything else that a choice may be written as. -/
  | noChoice
  | unknownLevel (name : String)
  deriving DecidableEq, Repr

/-- The text of a fault. -/
def SettingsFault.message : SettingsFault → String
  | .noDocument => "not a document"
  | .mismatch cause => cause.message .positional
  | .unknownChoice name choices =>
    s!"unknown variant `{name}`, expected one of "
      ++ ", ".intercalate (choices.map fun choice => s!"`{choice}`")
  | .noChoice => "wanted string or table"
  | .unknownLevel name => "Invalid log level: " ++ name

end RemoteCall

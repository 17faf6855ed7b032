import AccessPolicy.File.Directory
import AccessPolicy.Json.Response

/-! Why a run of the command ends without an exit code. -/

namespace AccessPolicy.Command

inductive RunFault where
  | settings (fault : Text.Utf8Fault)
  | unknownLevel (name : String)
  | levelIsText (text : String)
  | levelIsTable
  /-- A path that names no file, or text that cannot be printed. -/
  | file (fault : File.Fault)
  | policy (fault : Fault)
  | response (fault : ResponseFault)
  deriving Repr

def RunFault.message : RunFault → String
  | .settings fault => fault.message
  | .unknownLevel name => "module 'logging' has no attribute '" ++ name ++ "'"
  | .levelIsText text => "Unknown level: " ++ Text.quoted text
  | .levelIsTable =>
    "Level not an integer or a valid string: " ++
      "\x7b'%': (<class 'logging.PercentStyle'>, '%(levelname)s:%(name)s:%(message)s'), " ++
      "'\x7b': (<class 'logging.StrFormatStyle'>, " ++
      "'\x7blevelname\x7d:\x7bname\x7d:\x7bmessage\x7d'), " ++
      "'$': (<class 'logging.StringTemplateStyle'>, " ++
      "'$\x7blevelname\x7d:$\x7bname\x7d:$\x7bmessage\x7d')\x7d"
  | .file fault => fault.message
  | .policy fault => fault.message
  | .response fault => fault.message

end AccessPolicy.Command

import AccessPolicy.Command.Fault
import AccessPolicy.Policy.Summary

/-! The report on a policy for a human reader. It ends before the first line that cannot be made,
for a number that is too long, or cannot be written, for a surrogate. -/

namespace AccessPolicy.Command

/-- A line of text with the given values in it, which is written in UTF-8. -/
def writtenLine (values : List Value) (text : String) : Except RunFault String :=
  if values.any Value.holdsLongNumber then .error (.policy .longNumber)
  else
    -- The whole text has been made by now, and none of it is written if a part cannot be.
    match Text.EncodingFault.ofText? text with
    | some fault => .error (.file (.unencodable fault))
    | none => .ok (text ++ "\n")

def grantLine (grant : GrantSummary) : Except RunFault String :=
  writtenLine (grant.context :: grant.privileges)
    ("    " ++ grant.context.plain ++ ": " ++ ", ".intercalate (grant.privileges.map Value.plain) ++
      (if grant.conditions = 0 then "" else ", " ++ toString grant.conditions ++ " conditions"))

def shownTitle? (titles : Table Value) (role : Value) : Option Value :=
  (titles.get? role).filter Value.isTruthy

def roleLines (titles : Table Value) (role : Value) (grants : List GrantSummary) :
    List (Except RunFault String) :=
  let title? := shownTitle? titles role
  writtenLine (role :: title?.toList)
    ("  " ++ role.plain ++ ((title?.map fun title => " (" ++ title.plain ++ ")").getD "")) ::
    grants.map grantLine

def reportLines (file : String) (titles : Table Value) (summary : Summary) :
    List (Except RunFault String) :=
  writtenLine [] (file ++ ": " ++ toString summary.privileges ++ " privileges, " ++
    toString summary.roles ++ " roles, " ++ toString summary.rules ++ " rules") ::
    summary.grants.entries.flatMap fun (role, grants) => roleLines titles role grants

/-- The text of lines up to the first that cannot be written, and why it cannot. -/
def printed : List (Except RunFault String) → String × Option RunFault
  | [] => ("", none)
  | .error fault :: _ => ("", some fault)
  | .ok line :: rest =>
    let (text, fault?) := printed rest
    (line ++ text, fault?)

end AccessPolicy.Command

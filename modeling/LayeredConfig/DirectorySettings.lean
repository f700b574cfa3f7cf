import LayeredConfig.View

/-!
# Directory settings

The names and limits that every connector needs: where people, structures and accounts stand in the directory,
which object classes they have, and two limits. Each is read at its key and has a default. The extended schema
is read at the key of the schema, with a default of its own.
-/

namespace LayeredConfig

/-- The well known settings of a directory. -/
structure DirectorySettings where
  people : Text
  schema : Text
  enhancedSchema : Text
  structures : Text
  accounts : Text
  personClass : Text
  employeeClass : Text
  /-- The days between the marking of an entry and its removal. -/
  daysBeforeSuppression : Int
  root : Text
  /-- The greatest length of an identifier. -/
  uidMaxLength : Int
  deriving DecidableEq

namespace DirectorySettings

def default : DirectorySettings where
  people := "ou=People"
  schema := "cn=Subschema"
  enhancedSchema := "ou=Schema,ou=System"
  structures := "ou=Structures"
  accounts := "ou=Accounts"
  personClass := "inetOrgPerson"
  employeeClass := "inetOrgPerson"
  daysBeforeSuppression := 90
  root := "dc=lsc-project,dc=org"
  uidMaxLength := 8

def of (s : Scope) (ns : Namespace) : Except Failure DirectorySettings := do
  let text (key : Text) (byDefault : Text) : Text := (s.getString ns key none).getD byDefault
  let days ← s.getInt ns "suppression.MARQUAGE_NOMBRE_DE_JOURS" default.daysBeforeSuppression
  let length ← s.getInt ns "uid.maxlength" default.uidMaxLength
  return {
    people := text "dn.people" default.people
    schema := text "dn.ldap_schema" default.schema
    enhancedSchema := text "dn.ldap_schema" default.enhancedSchema
    structures := text "dn.structures" default.structures
    accounts := text "dn.accounts" default.accounts
    personClass := text "objectclass.person" default.personClass
    employeeClass := text "objectclass.employee" default.employeeClass
    daysBeforeSuppression := days
    root := text "dn.real_root" default.root
    uidMaxLength := length
  }

/-- The settings by name, in their order. -/
def toList (d : DirectorySettings) : List (Text × Json) :=
  [("dn_people", .text d.people), ("dn_ldap_schema", .text d.schema),
    ("dn_enhanced_schema", .text d.enhancedSchema), ("dn_structures", .text d.structures),
    ("dn_accounts", .text d.accounts), ("objectclass_person", .text d.personClass),
    ("objectclass_employee", .text d.employeeClass),
    ("days_before_suppression", .int d.daysBeforeSuppression), ("dn_real_root", .text d.root),
    ("uid_max_length", .int d.uidMaxLength)]

end DirectorySettings

end LayeredConfig

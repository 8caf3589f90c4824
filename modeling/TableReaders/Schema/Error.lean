import TableReaders.Markup.Fault

/-! What can be wrong with a schema: with the document it is read from, or with what it defines. -/

namespace TableReaders.Schema

inductive Defect where
  | severalApplications
  | noApplication
  | tableOpen (name : String)
  | entityUnknown (name : String)
  | other (description : String)
  deriving DecidableEq, Repr

def Defect.message : Defect → String
  | .severalApplications => "multiple application elements"
  | .noApplication => "No application element found"
  | .tableOpen name => "unterminated table '" ++ name ++ "'"
  | .entityUnknown name => "unknown entity reference '&" ++ name ++ ";'"
  | .other description => description

inductive ReadError where
  | markup (fault : Markup.Fault)
  | attributeMissing (element key : String)
  | misshapen (defect : Defect)
  deriving DecidableEq, Repr

def ReadError.message : ReadError → String
  | .markup fault => "XML parsing error: " ++ fault.message
  | .attributeMissing element key =>
      "missing required attribute '" ++ key ++ "' on element '" ++ element ++ "'"
  | .misshapen defect => "invalid schema structure: " ++ defect.message

inductive Definition where
  | table
  | field
  | enumeration
  | group
  | other (label : String)
  deriving DecidableEq, Repr

def Definition.label : Definition → String
  | .table => "table"
  | .field => "field"
  | .enumeration => "enumeration"
  | .group => "group"
  | .other label => label

inductive CheckError where
  | unreadable (error : ReadError)
  | noSuchTable (name : String)
  | definedTwice (definition : Definition) (name : String)
  | notAnIdentifier (definition : Definition) (name : String)
  | itemsMissing (table field : String)
  deriving DecidableEq, Repr

def CheckError.message : CheckError → String
  | .unreadable error => "parse error: " ++ error.message
  | .noSuchTable name => "table '" ++ name ++ "' not found"
  | .definedTwice definition name =>
      "duplicate " ++ definition.label ++ " definition: '" ++ name ++ "'"
  | .notAnIdentifier definition name =>
      "invalid " ++ definition.label ++ " identifier '" ++ name ++ "'"
  | .itemsMissing table field =>
      "vector field '" ++ field ++ "' in table '" ++ table ++ "' has no items type"

end TableReaders.Schema

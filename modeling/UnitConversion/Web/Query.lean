import UnitConversion.Association
import UnitConversion.Text.Fields
import UnitConversion.Web.Percent

/-!
# Query strings

A query is a list of fields between ampersands, each with a name, an equals sign and a value. A plus
sign stands for a space, and other characters may be percent-escaped.

* `Query.ofText`: the fields of a query. Of several fields with one name the last value counts, at the
  place of the first.
* `Query.text`: a query with given fields.
-/

namespace UnitConversion.Query

/-! ## Reading -/

/-- A name or a value as it is meant. -/
def decodePart (cs : List Char) : String :=
  String.ofList (Percent.decode (cs.map fun c => if c = '+' then ' ' else c))

/-- The name and the value of a field. Without an equals sign the value is empty. -/
def decodeField (cs : List Char) : String × String :=
  (decodePart (cs.takeWhile (· != '=')), decodePart (cs.dropWhile (· != '=')).tail)

/-- The fields of a query in order. Empty ones are left out. -/
def allFields (query : String) : List (String × String) :=
  ((Text.fields '&' query.toList).filter (!·.isEmpty)).map decodeField

/-- The fields of a query by name. -/
def ofText (query : String) : List (String × String) :=
  (allFields query).foldl (fun fields (name, value) => Association.put fields name value) []

/-! ## Writing -/

def encodePart (s : String) : List Char := Percent.encode Percent.isUnreserved s.toList

/-- A field of a query. -/
def encodeField (field : String × String) : List Char :=
  encodePart field.1 ++ '=' :: encodePart field.2

/-- A query with given fields. -/
def text (fields : List (String × String)) : String :=
  String.ofList (Text.join '&' (fields.map encodeField))

end UnitConversion.Query

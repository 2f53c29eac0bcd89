import RefAtlas.Reference.Name
import RefAtlas.Text.Case

/-! # Names that are never references

* `keywords`: the words of the analysed language, compared without regard to ASCII case.
* `commonTypes`: types of the language's standard library, compared exactly.
* `isFiltered`: the names that are one of these, or end in one of these.
-/

namespace RefAtlas.Reference
set_option autoImplicit false

def keywords : List String := [
  "abstract", "as", "base", "bool", "break", "byte", "case", "catch", "char", "checked",
  "class", "const", "continue", "decimal", "default", "delegate", "do", "double", "else",
  "enum", "event", "explicit", "extern", "false", "finally", "fixed", "float", "for",
  "foreach", "goto", "if", "implicit", "in", "int", "interface", "internal", "is", "lock",
  "long", "namespace", "new", "null", "object", "operator", "out", "override", "params",
  "private", "protected", "public", "readonly", "ref", "return", "sbyte", "sealed", "short",
  "sizeof", "stackalloc", "static", "string", "struct", "switch", "this", "throw", "true",
  "try", "typeof", "uint", "ulong", "unchecked", "unsafe", "ushort", "using", "virtual",
  "void", "volatile", "while",
  "async", "await", "dynamic", "nameof", "nint", "notnull", "nuint", "partial", "record",
  "unmanaged", "var", "where", "yield"]

/-- Value types, collections, delegates and attributes that no project declares itself. -/
def commonTypes : List String := [
  "Boolean", "Byte", "SByte", "Char", "Decimal", "Double", "Single", "Int16", "Int32",
  "Int64", "UInt16", "UInt32", "UInt64", "IntPtr", "UIntPtr", "String", "Object", "Void",
  "DateTime", "TimeSpan", "Guid", "Type", "Enum", "Exception", "Nullable", "Tuple",
  "ValueTuple", "Span", "ReadOnlySpan", "Memory",
  "Array", "List", "IList", "Dictionary", "IDictionary", "HashSet", "ISet", "Queue",
  "Stack", "LinkedList", "SortedList", "SortedDictionary", "SortedSet", "IEnumerable",
  "IEnumerator", "ICollection", "IReadOnlyList", "IReadOnlyCollection",
  "IReadOnlyDictionary", "KeyValuePair", "ConcurrentDictionary", "ConcurrentQueue",
  "ConcurrentBag",
  "Action", "Func", "Predicate", "EventHandler", "Task", "ValueTask", "IDisposable",
  "IEquatable", "IComparable", "IComparer", "IEqualityComparer",
  "Attribute", "SerializableAttribute", "ObsoleteAttribute", "FlagsAttribute",
  "NonSerializedAttribute", "AttributeUsageAttribute", "ConditionalAttribute"]

/-- Whether a word is a keyword, in any mixture of ASCII case. -/
def isKeyword (token : String) : Bool :=
  keywords.contains (String.ofList (Text.lowerAscii token.toList))

/-- Whether a name or its last segment is a common type. -/
def isCommonType (token : String) : Bool :=
  commonTypes.contains token || commonTypes.contains (shortName token)

/-- Whether a name must not appear among the references of a unit. -/
def isFiltered (token : String) : Bool :=
  isKeyword token || isKeyword (shortName token) || isCommonType token

end RefAtlas.Reference

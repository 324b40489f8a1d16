import PageMarks.Content.Error
import PageMarks.Document
import PageMarks.Text.Quoted

/-! Why a resource that is present cannot be used. -/

namespace PageMarks

inductive ColorSpaceFault
  | unknownFamily (name : String)
  | neitherNameNorArray
  | noFamilyName
  | tooShort (family : String) (size : Nat)
  | profileNotStream
  | highNotNumber
  | paletteNotBytes
  | colorantsNotArray

def ColorSpaceFault.text : ColorSpaceFault → String
  | unknownFamily name => "unknown family /" ++ name
  | neitherNameNorArray => "expected a name or an array"
  | noFamilyName => "array without a family name"
  | tooShort family size => "/" ++ family ++ " needs " ++ toString size ++ " entries"
  | profileNotStream => "ICC profile is not a stream"
  | highNotNumber => "Indexed hival is not a number"
  | paletteNotBytes => "Indexed lookup is neither a string nor a stream"
  | colorantsNotArray => "DeviceN colorants are not an array"

inductive InlineImageFault
  | operands
  | missing (key : String)
  | negative (key : String)

def InlineImageFault.text : InlineImageFault → String
  | operands => "expected dictionary and data operands"
  | missing key => "missing /" ++ key
  | negative key => "negative /" ++ key

/-- Kinds of resources whose value has to be a dictionary, or a dictionary with or without data. -/
inductive DictionaryKind
  | font
  | parameters
  | propertyList
  | pattern
  | shading

def DictionaryKind.text : DictionaryKind → String
  | font => "font"
  | parameters => "extended graphics state"
  | propertyList => "property list"
  | pattern => "pattern"
  | shading => "shading"

def DictionaryKind.complaint : DictionaryKind → String
  | font | parameters | propertyList => " is not a dictionary"
  | pattern | shading => " is neither a stream nor a dictionary"

/-- How the program can fail to answer: on a color space that contains itself, and at a sum that is no
32-bit number. -/
inductive Halt
  | endless
  | overflow

def Halt.text : Halt → String
  | endless => "no end to a color space"
  | overflow => "stopped at a character code"

inductive ResolveError
  | resourcesNotDictionary
  | categoryNotDictionary (category : String)
  | outsideDocument
  | colorSpace (fault : ColorSpaceFault)
  | notDictionary (kind : DictionaryKind) (name : String)
  | notStream (name : String)
  | unknownSubtype (name : String) (subtype : Option String)
  | inlineImage (fault : InlineImageFault)
  | content (error : Content.Error)
  | document (error : DocumentError)
  /-- No error of a lookup: the program does not come back from it. -/
  | unanswered (halt : Halt)

namespace ResolveError

def malformed (what detail : String) : String := "malformed " ++ what ++ ": " ++ detail

def message : ResolveError → String
  | resourcesNotDictionary => malformed "resources" "not a dictionary"
  | categoryNotDictionary category =>
    malformed "resources" ("/" ++ category ++ " is not a dictionary")
  | outsideDocument => malformed "reference" "indirect object outside a document"
  | colorSpace fault => malformed "color space" fault.text
  | notDictionary kind name => malformed kind.text ("/" ++ name ++ kind.complaint)
  | notStream name => malformed "xobject" ("/" ++ name ++ " is not a stream")
  | unknownSubtype name subtype =>
    malformed "xobject" ("/" ++ name ++ " has unknown subtype " ++ Text.quoted? subtype)
  | inlineImage fault => malformed "inline image" fault.text
  | content error => "invalid content stream: " ++ error.message
  | document error => error.message
  | unanswered halt => halt.text

end ResolveError
end PageMarks

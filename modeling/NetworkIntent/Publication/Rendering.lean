import NetworkIntent.Intent.Document

/-!
# Files of a publication

Each collection of an intent is a file of its own under version control: an object with the
collection under its qualified key, in the layout of the repository. Whatever else the document of
the collection carries is left out.

## Main definitions

* `Publication.render`: the text of a document in a repository.
* `Publication.renderCollection`: the file of a collection, or why there is none.
-/

set_option autoImplicit false

namespace NetworkIntent.Publication

/-- The text of a document in a repository. -/
def render (document : Json) : String :=
  document.render .repository

/-- The name of the document of a collection. -/
def documentName : Collection → String
  | .sites => "site"
  | .vpns => "vpn"

/-- The file of a collection. The document may have either form of keys. -/
def renderCollection (collection : Collection) (document : Json) : Except String String :=
  let key := collection.key .qualified
  match renameKeys .qualified document with
  | .error clash => .error clash.message
  | .ok qualified =>
    match qualified.get? key with
    | none => .error s!"missing {key}"
    | some value => .ok (render (.obj [(key, value)]))

end NetworkIntent.Publication

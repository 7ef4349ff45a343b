import ApiForge.Backend
import ApiForge.Parameters
/-
# ApiForge.Operations.Groups -- from paths to groups of operations

Every operation goes into the group of each of its tags, one without tags into the group
`default`.  Paths come in name order, the operations of a path in the order of the verbs,
and the tags of an operation in its own order; a group keeps the order of arrival.
-/

namespace ApiForge

set_option autoImplicit false

/-- The tag of operations that have none. -/
def defaultTag : String := "default"

/-- A tag as the description declares it, or a bare one. -/
def resolveTag (description : Description) (name : String) : Tag :=
  (description.declaredTag? name).getD (Tag.named name)

/-- The tags of an operation. -/
def resolveTags (description : Description) (operation : Operation) : List Tag :=
  match operation.tags.getD [] with
  | [] => [Tag.named defaultTag]
  | names => names.map (resolveTag description)

/-- An operation where it is found. -/
structure PlacedOperation where
  path : String
  verb : Verb
  /-- The operation with the parameters of its path. -/
  operation : Operation
  tags : List Tag

namespace PlacedOperation

/-- The operations of a path. -/
def ofPathItem (description : Description) (path : String) (item : PathItem) :
    List PlacedOperation :=
  item.operations.map fun o =>
    { path := path
      verb := o.1
      operation :=
        { o.2 with parameters := some (mergeParameters o.2.parameters item.parameters) }
      tags := resolveTags description o.2 }

/-- Every operation of a description. -/
def all (description : Description) : List PlacedOperation :=
  ((description.paths.map Dict.entries).getD []).flatMap fun p =>
    ofPathItem description p.1 p.2

/-- The security that an operation asks for. -/
def auth (description : Description) (o : PlacedOperation) : List AuthMethod :=
  resolveAuth o.operation.security description.security description.securitySchemes

/-- Project an operation. -/
def project (backend : Backend) (description : Description) (o : PlacedOperation) :
    Except Cause OperationProjection :=
  (backend.projector.ofOperation (backend.naming.escapeQuotationMark o.path) o.verb.method
    o.operation description).map fun projected =>
      let tagged := { projected with tags := o.tags }
      match o.auth description with
      | [] => tagged
      | methods =>
        { tagged.setExtension Key.authMethodsExtension (.bool true) with
          authMethods := backend.projector.ofSecurity methods
          hasAuthMethods := true }

/-- The failure that a cause makes of an operation under one of its tags. -/
def failure (o : PlacedOperation) (tag : Tag) (cause : Cause) : Failure :=
  .operation tag.name o.operation.operationId o.verb.name o.path cause

/-- Project an operation for one of its tags and put it into the group. -/
def addUnder (backend : Backend) (description : Description) (groups : OperationGroups)
    (placed : PlacedOperation × Tag) : Except Failure OperationGroups :=
  match placed.1.project backend description with
  | .error cause => .error (placed.1.failure placed.2 cause)
  | .ok projected =>
    .ok (backend.projector.addToGroup (backend.naming.sanitizeTag placed.2.name) projected groups)

end PlacedOperation

namespace OperationGroups

/-- Every operation of a description with each of its tags. -/
def places (description : Description) : List (PlacedOperation × Tag) :=
  (PlacedOperation.all description).flatMap fun o => o.tags.map fun tag => (o, tag)

/-- The operations of a description by tag. -/
def ofDescription (backend : Backend) (description : Description) :
    Except Failure OperationGroups :=
  (places description).foldlM (PlacedOperation.addUnder backend description) .empty

end OperationGroups

end ApiForge

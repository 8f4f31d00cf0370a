import WorkloadBindings.Json.Rest
import WorkloadBindings.Label.Selector

/-!
# Metadata of objects

What every object of the API says about itself: its name and namespace, its labels, who keeps it
alive, and whether it is being deleted. Points in time are kept in their written form. An object of a
kind that is not known beforehand has metadata and otherwise any members (`Dynamic.shape`).
-/

namespace WorkloadBindings

/-- An object that another one belongs to. -/
structure OwnerReference where
  apiVersion : String
  blockOwnerDeletion : Option Bool
  controller : Option Bool
  kind : String
  name : String
  uid : String
  deriving DecidableEq

namespace OwnerReference

/-- The wire shape of a reference to an owner. -/
def shape : Shape :=
  .api "OwnerReference"
    [("apiVersion", .filled (.str ""), .text),
     ("blockOwnerDeletion", .nullable, .flag),
     ("controller", .nullable, .flag),
     ("kind", .filled (.str ""), .text),
     ("name", .filled (.str ""), .text),
     ("uid", .filled (.str ""), .text)]

/-- The reference that a value of its shape writes. -/
def ofJson (j : Json) : OwnerReference where
  apiVersion := ((j.get? "apiVersion").bind Json.str?).getD ""
  blockOwnerDeletion := (j.get? "blockOwnerDeletion").bind Json.bool?
  controller := (j.get? "controller").bind Json.bool?
  kind := ((j.get? "kind").bind Json.str?).getD ""
  name := ((j.get? "name").bind Json.str?).getD ""
  uid := ((j.get? "uid").bind Json.str?).getD ""

/-- The reference as an object. -/
def toJson (r : OwnerReference) : Json :=
  .record
    [("apiVersion", some (.str r.apiVersion)),
     ("blockOwnerDeletion", r.blockOwnerDeletion.map .bool),
     ("controller", r.controller.map .bool),
     ("kind", some (.str r.kind)),
     ("name", some (.str r.name)),
     ("uid", some (.str r.uid))]

end OwnerReference

/-- What a manager says of the members of an object that it has set. -/
structure ManagedFieldsEntry where
  apiVersion : Option String := none
  fieldsType : Option String := none
  fieldsV1 : Option Verbatim := none
  manager : Option String := none
  operation : Option String := none
  subresource : Option String := none
  time : Option String := none
  deriving DecidableEq

namespace ManagedFieldsEntry

/-- The wire shape of what a manager says. -/
def shape : Shape :=
  .api "ManagedFieldsEntry"
    [("apiVersion", .nullable, .text),
     ("fieldsType", .nullable, .text),
     ("fieldsV1", .nullable, .any),
     ("manager", .nullable, .text),
     ("operation", .nullable, .text),
     ("subresource", .nullable, .text),
     ("time", .nullable, .instant false)]

/-- The entry that a value of its shape writes. -/
def ofJson (j : Json) : ManagedFieldsEntry where
  apiVersion := (j.get? "apiVersion").bind Json.str?
  fieldsType := (j.get? "fieldsType").bind Json.str?
  fieldsV1 := (j.get? "fieldsV1").map Verbatim.ofJson
  manager := (j.get? "manager").bind Json.str?
  operation := (j.get? "operation").bind Json.str?
  subresource := (j.get? "subresource").bind Json.str?
  time := (j.get? "time").bind Json.str?

/-- The entry as an object. -/
def toJson (e : ManagedFieldsEntry) : Json :=
  .record
    [("apiVersion", e.apiVersion.map .str),
     ("fieldsType", e.fieldsType.map .str),
     ("fieldsV1", e.fieldsV1.map Verbatim.value),
     ("manager", e.manager.map .str),
     ("operation", e.operation.map .str),
     ("subresource", e.subresource.map .str),
     ("time", e.time.map .str)]

end ManagedFieldsEntry

/-- The metadata of an object. -/
structure Metadata where
  annotations : Option Labels := none
  creationTimestamp : Option String := none
  deletionGracePeriodSeconds : Option Int := none
  deletionTimestamp : Option String := none
  finalizers : Option (List String) := none
  generateName : Option String := none
  generation : Option Int := none
  labels : Option Labels := none
  managedFields : Option (List ManagedFieldsEntry) := none
  name : Option String := none
  «namespace» : Option String := none
  ownerReferences : Option (List OwnerReference) := none
  resourceVersion : Option String := none
  selfLink : Option String := none
  uid : Option String := none
  deriving DecidableEq

namespace Metadata

instance : Inhabited Metadata := ⟨{}⟩

/-- The members of metadata. -/
def fields : List (String × Presence × Shape) :=
  [("annotations", .nullable, Labels.shape),
   ("creationTimestamp", .nullable, .instant false),
   ("deletionGracePeriodSeconds", .nullable, Shape.int64),
   ("deletionTimestamp", .nullable, .instant false),
   ("finalizers", .nullable, .list .text),
   ("generateName", .nullable, .text),
   ("generation", .nullable, Shape.int64),
   ("labels", .nullable, Labels.shape),
   ("managedFields", .nullable, .list ManagedFieldsEntry.shape),
   ("name", .nullable, .text),
   ("namespace", .nullable, .text),
   ("ownerReferences", .nullable, .list OwnerReference.shape),
   ("resourceVersion", .nullable, .text),
   ("selfLink", .nullable, .text),
   ("uid", .nullable, .text)]

/-- The wire shape of metadata. -/
def shape : Shape := .api "ObjectMeta" fields

/-- The metadata that a value of its shape writes. -/
def ofJson (j : Json) : Metadata where
  annotations := (j.get? "annotations").map Labels.ofJson
  creationTimestamp := (j.get? "creationTimestamp").bind Json.str?
  deletionGracePeriodSeconds := (j.get? "deletionGracePeriodSeconds").bind Json.int?
  deletionTimestamp := (j.get? "deletionTimestamp").bind Json.str?
  finalizers := (j.get? "finalizers").map fun xs => xs.items.filterMap Json.str?
  generateName := (j.get? "generateName").bind Json.str?
  generation := (j.get? "generation").bind Json.int?
  labels := (j.get? "labels").map Labels.ofJson
  managedFields := (j.get? "managedFields").map fun xs => xs.items.map ManagedFieldsEntry.ofJson
  name := (j.get? "name").bind Json.str?
  «namespace» := (j.get? "namespace").bind Json.str?
  ownerReferences := (j.get? "ownerReferences").map fun xs => xs.items.map OwnerReference.ofJson
  resourceVersion := (j.get? "resourceVersion").bind Json.str?
  selfLink := (j.get? "selfLink").bind Json.str?
  uid := (j.get? "uid").bind Json.str?

/-- The metadata as an object, without what is absent. -/
def toJson (m : Metadata) : Json :=
  .record
    [("annotations", m.annotations.map Labels.toJson),
     ("creationTimestamp", m.creationTimestamp.map .str),
     ("deletionGracePeriodSeconds", m.deletionGracePeriodSeconds.map .int),
     ("deletionTimestamp", m.deletionTimestamp.map .str),
     ("finalizers", m.finalizers.map .strings),
     ("generateName", m.generateName.map .str),
     ("generation", m.generation.map .int),
     ("labels", m.labels.map Labels.toJson),
     ("managedFields", m.managedFields.map fun es => .arr (es.map ManagedFieldsEntry.toJson)),
     ("name", m.name.map .str),
     ("namespace", m.namespace.map .str),
     ("ownerReferences", m.ownerReferences.map fun rs => .arr (rs.map OwnerReference.toJson)),
     ("resourceVersion", m.resourceVersion.map .str),
     ("selfLink", m.selfLink.map .str),
     ("uid", m.uid.map .str)]

/-- The object is being deleted. -/
def isDeleting (m : Metadata) : Bool := m.deletionTimestamp.isSome

/-- The labels, none when they are absent. -/
def labelSet (m : Metadata) : Labels := m.labels.getD .empty

/-- The name, or the one that a name will be generated from, or nothing. -/
def nameAny (m : Metadata) : String := (m.name.or m.generateName).getD ""

/-- The namespace, empty when it is absent. -/
def namespaceOrEmpty (m : Metadata) : String := m.namespace.getD ""

end Metadata

/-! ## Objects of any kind -/

namespace Dynamic

/-- The wire shape of an object of any kind. -/
def shape : Shape :=
  .extensible "struct DynamicObject" [("metadata", .lenient (.obj []), Metadata.shape)] []

/-- The wire shape of the metadata of a list. -/
def listMetaShape : Shape :=
  .api "ListMeta"
    [("continue", .nullable, .text),
     ("remainingItemCount", .nullable, Shape.int64),
     ("resourceVersion", .nullable, .text),
     ("selfLink", .nullable, .text)]

/-- The wire shape of a list of objects. -/
def listShape : Shape :=
  .extensible "struct ObjectList"
    [("items", .stated (.arr []), .list shape), ("metadata", .lenient (.obj []), listMetaShape)] []

/-- The objects of a list that has its shape. -/
def itemsOf (j : Json) : List Json := ((j.get? "items").map Json.items).getD []

end Dynamic

end WorkloadBindings

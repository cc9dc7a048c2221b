import SignOnOperator.Kubernetes.Shapes.Metadata
/-!
# Object metadata

What every object of the cluster carries: its name and place, labels and annotations, who owns it, and the finalizers
that hold up its deletion.  `ofJson` reads the normal form of the shape `objectMeta`, and `toJson` writes it.
-/
namespace SignOnOperator.Kubernetes

structure OwnerReference where
  apiVersion : String
  blockOwnerDeletion : Option Bool := none
  controller : Option Bool := none
  kind : String
  name : String
  uid : String
  deriving DecidableEq

namespace OwnerReference

def ofJson (j : Json) : OwnerReference where
  apiVersion := (j.get "apiVersion").text
  blockOwnerDeletion := (j.get "blockOwnerDeletion").bool?
  controller := (j.get "controller").bool?
  kind := (j.get "kind").text
  name := (j.get "name").text
  uid := (j.get "uid").text

def toJson (o : OwnerReference) : Json :=
  .objectOf
    [("apiVersion", some (.str o.apiVersion)), ("blockOwnerDeletion", o.blockOwnerDeletion.map .bool),
      ("controller", o.controller.map .bool), ("kind", some (.str o.kind)), ("name", some (.str o.name)),
      ("uid", some (.str o.uid))]

end OwnerReference

/-- The metadata of an object.  Points in time are in their normal form; `managedFields` is kept as it was read. -/
structure ObjectMeta where
  annotations : Option (KeyMap String) := none
  creationTimestamp : Option String := none
  deletionGracePeriodSeconds : Option Int := none
  deletionTimestamp : Option String := none
  finalizers : Option (List String) := none
  generateName : Option String := none
  generation : Option Int := none
  labels : Option (KeyMap String) := none
  managedFields : Option (List Json) := none
  name : Option String := none
  namespaceName : Option String := none
  ownerReferences : Option (List OwnerReference) := none
  resourceVersion : Option String := none
  selfLink : Option String := none
  uid : Option String := none

namespace ObjectMeta

/-- A member that is a map of texts, if it is there. -/
def textMap? (name : String) (j : Json) : Option (KeyMap String) := (j.get? name).map Json.textMembers

def ofJson (j : Json) : ObjectMeta where
  annotations := textMap? "annotations" j
  creationTimestamp := (j.get "creationTimestamp").str?
  deletionGracePeriodSeconds := (j.get "deletionGracePeriodSeconds").int?
  deletionTimestamp := (j.get "deletionTimestamp").str?
  finalizers := (j.get? "finalizers").map Json.texts
  generateName := (j.get "generateName").str?
  generation := (j.get "generation").int?
  labels := textMap? "labels" j
  managedFields := (j.get? "managedFields").map Json.items
  name := (j.get "name").str?
  namespaceName := (j.get "namespace").str?
  ownerReferences := (j.get? "ownerReferences").map fun l => l.items.map OwnerReference.ofJson
  resourceVersion := (j.get "resourceVersion").str?
  selfLink := (j.get "selfLink").str?
  uid := (j.get "uid").str?

def toJson (m : ObjectMeta) : Json :=
  .objectOf
    [("annotations", m.annotations.map .textMap), ("creationTimestamp", m.creationTimestamp.map .str),
      ("deletionGracePeriodSeconds", m.deletionGracePeriodSeconds.map .int),
      ("deletionTimestamp", m.deletionTimestamp.map .str), ("finalizers", m.finalizers.map .strings),
      ("generateName", m.generateName.map .str), ("generation", m.generation.map .int),
      ("labels", m.labels.map .textMap), ("managedFields", m.managedFields.map .arr), ("name", m.name.map .str),
      ("namespace", m.namespaceName.map .str),
      ("ownerReferences", m.ownerReferences.map fun l => .arr (l.map OwnerReference.toJson)),
      ("resourceVersion", m.resourceVersion.map .str), ("selfLink", m.selfLink.map .str), ("uid", m.uid.map .str)]

/-- The name, or the beginning of one that the cluster is to complete, or nothing. -/
def nameAny (m : ObjectMeta) : String := (m.name.or m.generateName).getD ""

/-- The value of a label. -/
def label? (m : ObjectMeta) (key : String) : Option String := m.labels.bind fun labels => labels.get? key

/-- Whether the cluster is waiting to remove the object. -/
def isDeleted (m : ObjectMeta) : Bool := m.deletionTimestamp.isSome

/-- The finalizers, in order. -/
def finalizerList (m : ObjectMeta) : List String := m.finalizers.getD []

end ObjectMeta

/-- The members that every manifest begins with. -/
def header (apiVersion kind : String) (metadata : ObjectMeta) : List (String × Option Json) :=
  [("apiVersion", some (.str apiVersion)), ("kind", some (.str kind)), ("metadata", some metadata.toJson)]

end SignOnOperator.Kubernetes

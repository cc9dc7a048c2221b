import SignOnOperator.Bytes.Base64
import SignOnOperator.Json.Shape
import SignOnOperator.Time.Timestamp
/-!
# Shapes of object metadata

The parts that the manifests of all kinds share, and the texts in special forms that occur in them.  Every record is
lenient: unknown members are ignored, missing ones are left out or blank.
-/
namespace SignOnOperator.Kubernetes.Shapes

/-- A field that reading leaves out if it is missing. -/
def optional (name : String) (shape : Shape) : Shape.Field := { name, shape }

/-- A field that reading fills in if it is missing. -/
def required (name : String) (shape : Shape) : Shape.Field := { name, shape, required := true }

/-- A point in time, in its normal form. -/
def timestamp : Shape :=
  .formatted "an RFC 3339 formatted date and time string" "1970-01-01T00:00:00Z" Timestamp.normal

/-- Bytes in base 64; `null` stands for none. -/
def base64 : Shape where
  read
    | .null _ => .ok (.str "")
    | d =>
      let bytes := Shape.formatted "a base64-encoded string" "" fun s =>
        match Base64.decode (.ofString s) with
        | .ok bytes => .ok (Base64.encode bytes)
        | .error e => .error e.message
      bytes.read d
  blank := .str ""

/-- A number of 32 bits or a text. -/
def intOrString : Shape where
  read
    | .int n span =>
      if -2147483648 ≤ n ∧ n ≤ 2147483647 then .ok (.int n)
      else .error ((Document.int n span).wrongValue "a 32-bit integer")
    | .str s _ => .ok (.str s)
    | d => .error (d.wrongType "IntOrString")
  blank := .int 0

def managedFieldsEntry : Shape :=
  .lenient "ManagedFieldsEntry"
    [optional "apiVersion" .text, optional "fieldsType" .text, optional "fieldsV1" .anything,
      optional "manager" .text, optional "operation" .text, optional "subresource" .text, optional "time" timestamp]

def ownerReference : Shape :=
  .lenient "OwnerReference"
    [required "apiVersion" .text, optional "blockOwnerDeletion" .boolean, optional "controller" .boolean,
      required "kind" .text, required "name" .text, required "uid" .text]

def objectMeta : Shape :=
  .lenient "ObjectMeta"
    [optional "annotations" (.map .text), optional "creationTimestamp" timestamp,
      optional "deletionGracePeriodSeconds" .int64, optional "deletionTimestamp" timestamp,
      optional "finalizers" (.list .text), optional "generateName" .text, optional "generation" .int64,
      optional "labels" (.map .text), optional "managedFields" (.list managedFieldsEntry), optional "name" .text,
      optional "namespace" .text, optional "ownerReferences" (.list ownerReference),
      optional "resourceVersion" .text, optional "selfLink" .text, optional "uid" .text]

def listMeta : Shape :=
  .lenient "ListMeta"
    [optional "continue" .text, optional "remainingItemCount" .int64, optional "resourceVersion" .text,
      optional "selfLink" .text]

def labelSelectorRequirement : Shape :=
  .lenient "LabelSelectorRequirement"
    [required "key" .text, required "operator" .text, optional "values" (.list .text)]

def labelSelector : Shape :=
  .lenient "LabelSelector"
    [optional "matchExpressions" (.list labelSelectorRequirement), optional "matchLabels" (.map .text)]

def condition : Shape :=
  .lenient "Condition"
    [required "lastTransitionTime" timestamp, required "message" .text, optional "observedGeneration" .int64,
      required "reason" .text, required "status" .text, required "type" .text]

end SignOnOperator.Kubernetes.Shapes

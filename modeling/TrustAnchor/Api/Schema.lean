import TrustAnchor.Api.Shape
import TrustAnchor.Resource.Kind

/-! Objects as the API writes them: the shape of each kind, and the way from a value in that shape
to an object and back. What the controller does not look at is carried along. -/

namespace TrustAnchor.Api

private def texts (keys : List String) : List Field := keys.map fun key => .optional key .text

private def metadataShape : Shape := .record "ObjectMeta" (
  texts ["name", "generateName", "namespace", "resourceVersion"] ++ [
    .optional "labels" (.map .text),
    .optional "annotations" (.map .text),
    .optional "creationTimestamp" .time,
    .optional "deletionGracePeriodSeconds" (.integer 64),
    .optional "deletionTimestamp" .time,
    .optional "finalizers" (.list .text),
    .optional "generation" (.integer 64),
    .optional "managedFields" (.list (.record "ManagedFieldsEntry" (
      texts ["apiVersion", "fieldsType", "manager", "operation", "subresource"]
        ++ [.optional "fieldsV1" .any, .optional "time" .time]))),
    .optional "ownerReferences" (.list (.record "OwnerReference" [
      .default "apiVersion" .text (.str ""),
      .optional "blockOwnerDeletion" .flag,
      .optional "controller" .flag,
      .default "kind" .text (.str ""),
      .default "name" .text (.str ""),
      .default "uid" .text (.str "")])),
    .optional "selfLink" .text,
    .optional "uid" .text])

private def typed (apiVersion kind : String) (fields : List Field) : Shape :=
  .record kind (.fixed "apiVersion" apiVersion :: .fixed "kind" kind
    :: .default "metadata" metadataShape (.obj []) :: fields)

private def secretShape : Shape := typed "v1" "Secret" [
  .optional "data" (.map .bytes),
  .optional "immutable" .flag,
  .optional "stringData" (.map .text),
  .optional "type" .text]

private def selectorShape : Shape := .record "LabelSelector" [
  .optional "matchExpressions" (.list (.record "LabelSelectorRequirement" [
    .default "key" .text (.str ""),
    .default "operator" .text (.str ""),
    .optional "values" (.list .text)])),
  .optional "matchLabels" (.map .text)]

private def clientShape : Shape := .record "WebhookClientConfig" [
  .optional "caBundle" .bytes,
  .optional "service" (.record "ServiceReference" [
    .default "name" .text (.str ""),
    .default "namespace" .text (.str ""),
    .optional "path" .text,
    .optional "port" (.integer 32)]),
  .optional "url" .text]

private def ruleShape : Shape := .record "RuleWithOperations" [
  .optional "apiGroups" (.list .text),
  .optional "apiVersions" (.list .text),
  .optional "operations" (.list .text),
  .optional "resources" (.list .text),
  .optional "scope" .text]

/-- Only mutating webhooks can be called a second time. -/
private def webhookShape (kind : WebhookKind) : Shape :=
  let name := match kind with
    | .mutating => "MutatingWebhook"
    | .validating => "ValidatingWebhook"
  let again : List Field := match kind with
    | .mutating => texts ["reinvocationPolicy"]
    | .validating => []
  .record name ([
    .default "clientConfig" clientShape (.obj []),
    .default "name" .text (.str ""),
    .default "admissionReviewVersions" (.list .text) (.arr []),
    .default "sideEffects" .text (.str ""),
    .optional "failurePolicy" .text,
    .optional "matchConditions" (.list (.record "MatchCondition" [
      .default "expression" .text (.str ""),
      .default "name" .text (.str "")])),
    .optional "matchPolicy" .text,
    .optional "namespaceSelector" selectorShape,
    .optional "objectSelector" selectorShape,
    .optional "rules" (.list ruleShape),
    .optional "timeoutSeconds" (.integer 32)] ++ again)

/-- The version of the API that a kind belongs to. -/
def apiVersion : Kind → String
  | .secret => "v1"
  | .webhook _ => "admissionregistration.k8s.io/v1"

def shape : Kind → Shape
  | .secret => secretShape
  | .webhook kind =>
    typed (apiVersion (.webhook kind)) kind.text [.optional "webhooks" (.list (webhookShape kind))]

private def textMap (j : Json) : KeyMap String :=
  .ofList ((j.obj?.getD []).map fun (k, v) => (k, v.str?.getD ""))

private def bytesOf (j : Json) : Bytes :=
  match Base64.decode (Text.Utf8.encode (j.str?.getD "")) with
  | .ok bytes => bytes
  | .error _ => []

private def without (keys : List String) (j : Json) : List (String × Json) :=
  (j.obj?.getD []).filter fun (k, _) => !keys.contains k

private def metadataOf (j : Json) : Metadata where
  name := (j.get? "name").bind Json.str?
  generateName := (j.get? "generateName").bind Json.str?
  namespaceName := (j.get? "namespace").bind Json.str?
  version := (j.get? "resourceVersion").bind Json.str?
  labels := (j.get? "labels").map textMap
  others := without ["name", "generateName", "namespace", "resourceVersion", "labels"] j

private def serviceOf (j : Json) : ServiceReference where
  name := ((j.get? "name").bind Json.str?).getD ""
  namespaceName := ((j.get? "namespace").bind Json.str?).getD ""
  path := (j.get? "path").bind Json.str?
  port := (j.get? "port").bind Json.int?

private def webhookOf (j : Json) : Webhook :=
  let client := (j.get? "clientConfig").getD .null
  { name := ((j.get? "name").bind Json.str?).getD ""
    service := (client.get? "service").map serviceOf
    bundle := (client.get? "caBundle").map bytesOf
    url := (client.get? "url").bind Json.str?
    others := without ["clientConfig", "name"] j }

private def metadataIn (j : Json) : Metadata := metadataOf ((j.get? "metadata").getD .null)

private def secretOf (j : Json) : Secret where
  metadata := metadataIn j
  data := (j.get? "data").map fun d =>
    .ofList ((d.obj?.getD []).map fun (k, v) => (k, bytesOf v))
  stringData := (j.get? "stringData").map textMap
  type := (j.get? "type").bind Json.str?
  immutable := (j.get? "immutable").bind Json.bool?

private def configurationOf (j : Json) : WebhookConfiguration where
  metadata := metadataIn j
  webhooks := (j.get? "webhooks").map fun ws => (ws.arr?.getD []).map webhookOf

/-- The value in the shape of a kind that a text consists of. -/
def readShaped (k : Kind) (text : String) : Except String Json :=
  Json.readWith (fun fuel => (shape k).read fuel Json.Scan.maxDepth) text

/-- The object that a text describes. -/
def decode : (k : Kind) → String → Except String k.Object
  | .secret, text => (readShaped .secret text).map secretOf
  | .webhook kind, text => (readShaped (.webhook kind) text).map configurationOf

private def member (key : String) : Option Json → List (String × Json)
  | some j => [(key, j)]
  | none => []

private def textMapOut (m : KeyMap String) : Json :=
  .obj (m.entries.map fun (k, v) => (k, .str v))

private def metadataOut (m : Metadata) : Json := .obj (
  member "name" (m.name.map .str) ++ member "generateName" (m.generateName.map .str)
    ++ member "namespace" (m.namespaceName.map .str)
    ++ member "resourceVersion" (m.version.map .str) ++ member "labels" (m.labels.map textMapOut)
    ++ m.others)

private def bytesOut (b : Bytes) : Json := .str (Base64.encodeText b)

private def serviceOut (s : ServiceReference) : Json := .obj (
  [("name", .str s.name), ("namespace", .str s.namespaceName)]
    ++ member "path" (s.path.map .str) ++ member "port" (s.port.map .int))

/-- Members that an entry always has, if it does not have them yet. -/
private def required (others : List (String × Json)) : List (String × Json) :=
  [("admissionReviewVersions", .arr []), ("sideEffects", .str "")].filter fun (k, _) =>
    !others.any (·.1 = k)

private def webhookOut (w : Webhook) : Json := .obj (
  [("name", .str w.name),
    ("clientConfig", .obj (member "service" (w.service.map serviceOut)
      ++ member "caBundle" (w.bundle.map bytesOut) ++ member "url" (w.url.map .str)))]
    ++ w.others ++ required w.others)

private def described (k : Kind) (m : Metadata) (rest : List (String × Json)) : Json :=
  .obj (("apiVersion", .str (apiVersion k)) :: ("kind", .str k.text)
    :: ("metadata", metadataOut m) :: rest)

/-- The value that describes an object. -/
def encode : (k : Kind) → k.Object → Json
  | .secret, s => described .secret s.metadata (
    member "data" (s.data.map fun d => .obj (d.map bytesOut).entries)
      ++ member "stringData" (s.stringData.map textMapOut) ++ member "type" (s.type.map .str)
      ++ member "immutable" (s.immutable.map .bool))
  | .webhook kind, c => described (.webhook kind) c.metadata (
    member "webhooks" (c.webhooks.map fun ws => .arr (ws.map webhookOut)))

end TrustAnchor.Api

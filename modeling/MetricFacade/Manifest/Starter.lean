/-!
# The starter manifest

What a new manifest says until it is edited: one metric of each kind, in two namespaces.
-/
namespace MetricFacade.Manifest

/-- The name of its file in the root of a workspace. -/
def starterName : String := "facadegen.toml"

def starterLines : List String :=
  ["# facadegen manifest",
   "#",
   "# Each [[metric]] entry declares one metric. Metrics sharing a namespace are exposed",
   "# through one generated `Metrics` facade in the module of that name.",
   "",
   "[options]",
   "# \"strict\" rejects conflicting bucket annotations, \"lenient\" resolves them by precedence",
   "bucket_policy = \"strict\"",
   "",
   "# Crate the generated code refers to for the facade cache and the client library",
   "runtime_crate = \"facadegen_runtime\"",
   "",
   "[[metric]]",
   "namespace = \"app\"",
   "ident = \"Requests\"",
   "type = \"counter\"",
   "name = \"requests_total\"",
   "help = \"Requests handled, by route and status\"",
   "labels = [\"route\", \"status\"]",
   "",
   "[[metric]]",
   "namespace = \"app\"",
   "ident = \"InFlight\"",
   "type = \"gauge\"",
   "name = \"requests_in_flight\"",
   "help = \"Requests currently being handled\"",
   "",
   "[[metric]]",
   "namespace = \"app\"",
   "ident = \"Latency\"",
   "type = \"histogram\"",
   "name = \"request_latency_seconds\"",
   "help = \"Request latency in seconds\"",
   "labels = [\"route\"]",
   "",
   "[[metric]]",
   "namespace = \"app::storage\"",
   "ident = \"ReadSize\"",
   "type = \"histogram\"",
   "name = \"storage_read_bytes\"",
   "help = \"Size of storage reads in bytes\"",
   "exponential_buckets = \x7b start = 64.0, factor = 4.0, count = 8 \x7d"]

/-- The text of the starter manifest. -/
def starter : String :=
  String.join (starterLines.map fun line => line ++ "\n")

end MetricFacade.Manifest

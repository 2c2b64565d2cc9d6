import MetricFacade.Catalog

/-!
# Sample facades

Metrics of a made-up service in two namespaces, with every way to lay out buckets.
-/
namespace MetricFacade.Sample

open MetricFacade.Metric

def longHelp : String :=
  "this is a really long help message and it may cause things to wrap because it is so long "
    ++ "1234567890 1234567890 1234567890 1234567890 1234567890"

def requestDeclarations : List Declaration :=
  [{ scope := "sample", ident := "Error", kind := .counter, labels := ["label1", "label2"] },
   { scope := "sample", ident := "Timing", kind := .histogram, name := some "testHisto",
     help := "my help", labels := ["histogram label"], buckets := [.exponential 1.0 2.0 16] },
   { scope := "sample", ident := "Timing2", kind := .histogram, name := some "testHisto2",
     help := "my help", labels := ["histogram label"], buckets := [.linear 1.0 2.0 16] },
   { scope := "sample", ident := "Timing3", kind := .histogram, name := some "testHisto3",
     help := "my help", labels := ["histogram label"], buckets := [.explicit [1.0, 2.0, 3.0]] },
   { scope := "sample", ident := "Timing4", kind := .histogram, name := some "testHisto4",
     help := "my help", labels := ["histogram label"] },
   { scope := "sample", ident := "LongHelpCounter", kind := .counter,
     name := some "long_help_counter", help := longHelp },
   { scope := "sample", ident := "NumThreads", kind := .gauge, name := some "testGauge",
     help := "my help" }]

def storageDeclarations : List Declaration :=
  [{ scope := "sample::storage", ident := "Reads", kind := .counter,
     name := some "storage_reads_total", help := "Storage reads by region and shard",
     labels := ["region", "shard"] },
   { scope := "sample::storage", ident := "ReadLatency", kind := .histogram,
     name := some "storage_read_latency_seconds", help := "Storage read latency in seconds",
     labels := ["region"], buckets := [.linear 0.005 0.005 10] }]

def declarations : List Declaration :=
  requestDeclarations ++ storageDeclarations

/-- The facade of a namespace of the sample. -/
def facade? (scope : String) : Option Facade :=
  (facades declarations).find? fun f => f.scope = scope

end MetricFacade.Sample

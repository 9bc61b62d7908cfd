import Autoscaler.Binary64.Shortest
import Autoscaler.Metrics.Basic

/-!
# Metrics as text

Metrics are shown as families of samples, each with its meaning and kind. Families come in the
order of their names, and samples in the order of their groups. All values are doubles.
-/

namespace Autoscaler.Metrics

/-- One line of values: the name of a family with an ending, labels and a value. -/
structure Sample where
  ending : String := ""
  labels : List (String × String) := []
  value : Binary64

inductive Kind where
  | counter
  | gauge
  | histogram

def Kind.name : Kind → String
  | counter => "counter"
  | gauge => "gauge"
  | histogram => "histogram"

structure Family where
  name : String
  help : String
  kind : Kind
  samples : List Sample

/-- A character of a label value: quotes, backslashes and line feeds are escaped. -/
def escapeLabelChar : Char → List Char
  | '\\' => ['\\', '\\']
  | '"' => ['\\', '"']
  | '\n' => ['\\', 'n']
  | c => [c]

def escapeLabel (s : String) : String := String.ofList (s.toList.flatMap escapeLabelChar)

def renderLabels (labels : List (String × String)) : String :=
  if labels.isEmpty then ""
  else
    "\x7b" ++ ",".intercalate (labels.map fun (name, value) =>
      name ++ "=\"" ++ escapeLabel value ++ "\"") ++ "\x7d"

def Sample.line (family : String) (s : Sample) : String :=
  family ++ s.ending ++ renderLabels s.labels ++ " " ++ s.value.render

def Family.lines (f : Family) : List String :=
  if f.samples.isEmpty then []
  else
    ("# HELP " ++ f.name ++ " " ++ f.help) :: ("# TYPE " ++ f.name ++ " " ++ f.kind.name) ::
      f.samples.map (Sample.line f.name)

def gauge {α : Type} (name help : String) (value : α → Binary64) (series : Series α) : Family where
  name
  help
  kind := .gauge
  samples := series.map fun (group, x) => { labels := [("nodegroup", group)], value := value x }

def wordValue (n : Int64) : Binary64 := .ofInt n.toInt

def cumulative : Nat → List Nat → List Nat
  | _, [] => []
  | before, n :: rest => (before + n) :: cumulative (before + n) rest

/-- The samples of a histogram: the counts up to each bound, the sum and the number of values. -/
def Histogram.samples (h : Histogram) : List Sample :=
  let bucket (bound : String) (n : Nat) : Sample :=
    { ending := "_bucket", labels := [("le", bound)], value := .ofNat n }
  List.zipWith (fun (bound : Binary64) n => bucket bound.render n) bounds (cumulative 0 h.counts) ++
    [bucket "+Inf" h.count, { ending := "_sum", value := h.sum },
      { ending := "_count", value := .ofNat h.count }]

/-- All families in the order of their names. -/
def families (m : Metrics) : List Family := [
  gauge "nodescaler_node_group_cpu_request_percent"
    "Requested CPU as a percentage of allocatable CPU" id m.cpuPercent,
  gauge "nodescaler_node_group_dry_mode" "1 if the node group runs in dry mode" wordValue m.dryMode,
  gauge "nodescaler_node_group_memory_request_percent"
    "Requested memory as a percentage of allocatable memory" id m.memoryPercent,
  gauge "nodescaler_node_group_nodes" "Nodes in the node group" wordValue m.nodes,
  gauge "nodescaler_node_group_pods" "Non-terminal pods scheduled onto the node group" wordValue
    m.pods,
  { name := "nodescaler_scan_cycles_total"
    help := "Number of completed scan cycles"
    kind := .counter
    samples := [{ value := .ofNat m.cycles }] },
  { name := "nodescaler_scan_duration_seconds"
    help := "Duration of a full scan cycle over all node groups"
    kind := .histogram
    samples := m.durations.samples },
  { name := "nodescaler_scan_errors_total"
    help := "Number of failed node group scans"
    kind := .counter
    samples := m.errors.map fun (group, n) =>
      { labels := [("nodegroup", group)], value := .ofNat n } }]

def lines (m : Metrics) : List String := m.families.flatMap Family.lines

def render (m : Metrics) : String := String.join (m.lines.map (· ++ "\n"))

end Autoscaler.Metrics

import Autoscaler.Metrics.Exposition
import Autoscaler.StopSignal

/-!
# Endpoints

The server for probes and metrics answers three paths. Its state is whether the process is ready,
what is measured, and whether it still runs; it runs until the stop signal closes.
-/

namespace Autoscaler.Endpoints

inductive Route where
  | health
  | readiness
  | metrics
deriving DecidableEq, Repr

def Route.ofPath? (path : String) : Option Route :=
  if path = "/healthz" then some health
  else if path = "/readyz" then some readiness
  else if path = "/metrics" then some metrics
  else none

structure Request where
  method : String
  target : String
deriving DecidableEq, Repr

/-- The path without the query. -/
def Request.path (r : Request) : String :=
  String.ofList (r.target.toList.takeWhile (· != '?'))

structure Response where
  status : Nat
  contentType : Option String := none
  allow : Option String := none
  body : List String := []
deriving DecidableEq, Repr

def metricsType : String := "text/plain; version=0.0.4; charset=utf-8"

/-- What a route shows. The process is healthy if it answers at all. -/
def Route.answer (ready : Bool) (measured : Metrics) : Route → Response
  | health => { status := 200 }
  | readiness => { status := if ready then 200 else 503 }
  | metrics => { status := 200, contentType := some metricsType, body := measured.lines }

/-- The response to a request. Paths can be looked at with or without their body. -/
def respond (ready : Bool) (measured : Metrics) (r : Request) : Response :=
  match Route.ofPath? r.path with
  | none => { status := 404 }
  | some route =>
    if r.method = "GET" then route.answer ready measured
    else if r.method = "HEAD" then { route.answer ready measured with body := [] }
    else { status := 405, allow := some "GET,HEAD" }

/-- Why a server cannot take an address, or a client cannot reach it. -/
inductive Fault where
  | addressInUse
  | refused
deriving DecidableEq, Repr

def Fault.message : Fault → String
  | addressInUse => "Address already in use (os error 98)"
  | refused => "connection refused"

structure Server where
  running : Bool := true
  ready : Bool := false
  measured : Metrics := {}

namespace Server

/-- A request over the network, which leads to the server only if it is connected. -/
def exchange (s : Server) (connected : Bool) (r : Request) : Except Fault Response :=
  if connected && s.running then .ok (respond s.ready s.measured r) else .error .refused

/-- Ends the server; tells whether it was running. -/
def stop (s : Server) : Server × Bool := ({ s with running := false }, s.running)

/-- Runs another server at the same address until the stop signal, which closes with this one. -/
def bindAgain (s : Server) : Except Fault Unit :=
  if s.running then .error .addressInUse else .ok ()

end Server

end Autoscaler.Endpoints

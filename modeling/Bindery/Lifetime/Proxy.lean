import Bindery.Lifetime.Guard
import Bindery.Lifetime.Handle

/-! # Proxies

A proxy owns one native reference and gives it back once: when it is disposed, or when it is
dropped without having been disposed.
-/

namespace Bindery.Lifetime

/-- The owner of a native reference. -/
structure Proxy where
  handle : Handle
  guard : Guard
  deriving DecidableEq, Repr

namespace Proxy

/-- The owner of the reference that a handle stands for. There is none for the handle of nothing. -/
def own (handle : Handle) : Except Fault Proxy :=
  if handle.isNull then .error .nullHandle else .ok ⟨handle, .fresh⟩

/-- The owner of a reference that native code has returned, if it has returned one. -/
def ofNative? (handle : Handle) : Option Proxy := (own handle).toOption

/-- Whether a proxy has given its reference back. -/
def isDisposed (proxy : Proxy) : Bool := proxy.guard.taken

/-- The handle of a proxy that still has its reference. -/
def currentHandle (proxy : Proxy) : Except Fault Handle :=
  if proxy.isDisposed then .error (.released proxy.handle) else .ok proxy.handle

/-- Disposes a proxy: the handle whose reference is to be given back now, if it still is to be, and
the proxy from then on. Dropping a proxy disposes it. -/
def dispose (proxy : Proxy) : Option Handle × Proxy :=
  (if proxy.guard.take.1 then some proxy.handle else none,
    { proxy with guard := proxy.guard.take.2 })

/-- A proxy in words. -/
def display (proxy : Proxy) : String :=
  s!"ProxyHandle \x7b handle: {proxy.handle.fieldText}, disposed: {proxy.isDisposed} \x7d"

end Proxy

end Bindery.Lifetime

import PicoTorrent.Client.Ws.WebsocketServer

namespace PicoTorrent

namespace Ws

/-! `start` and `stop`: the background thread `bg_` that runs the server loop `run`, the
websocketpp endpoint it listens on, and the `io_service` that `stop` halts. -/

/-- The part of `websocket_server` that `start`, `run` and `stop` touch. -/
structure Lifecycle where
  /-- `bg_.joinable()`. -/
  joinable : Bool
  /-- Whether `srv_->get_io_service().stop()` has been called. -/
  ioStopped : Bool
  /-- The endpoint is in websocketpp's `LISTENING` state: `listen` succeeded and
  `stop_listening` has not been called since. -/
  listening : Bool
  deriving DecidableEq

/-- How a call to `start` or `stop` can end instead of returning. -/
inductive Failure where
  /-- Move-assigning to a joinable `std::thread` calls `std::terminate`. -/
  | terminate
  /-- `std::thread::join` on a thread that is not joinable throws `std::system_error`. -/
  | systemError
  /-- The throwing `listen(port)` throws `websocketpp::exception` (the endpoint is not
  `READY`, or the port cannot be bound); it leaves the thread's function, and
  `std::terminate` ends the process. -/
  | listenFailed
  deriving DecidableEq

namespace Lifecycle

/-- `websocket_server::run` on `bg_`: `srv_->listen(port); srv_->start_accept(); srv_->run();`,
where `portFree` is whether the listen port can be bound. -/
def run (state : Lifecycle) (portFree : Bool) : Except Failure Lifecycle :=
  if state.listening || !portFree then .error .listenFailed
  else .ok { state with listening := true }

/-- `bg_ = std::thread(std::bind(&websocket_server::run, this))`. -/
def start (state : Lifecycle) (portFree : Bool) : Except Failure Lifecycle :=
  if state.joinable then .error .terminate else run { state with joinable := true } portFree

/-- `srv_->get_io_service().stop(); bg_.join();` -/
def stop (state : Lifecycle) : Except Failure Lifecycle :=
  let state := { state with ioStopped := true }
  if state.joinable then .ok { state with joinable := false } else .error .systemError

inductive Call where
  | start (portFree : Bool)
  | stop
  deriving DecidableEq

def call (state : Lifecycle) : Call → Except Failure Lifecycle
  | .start portFree => state.start portFree
  | .stop => state.stop

/-- The calls in order, up to the first that does not return. -/
def calls (state : Lifecycle) : List Call → Except Failure Lifecycle
  | [] => .ok state
  | first :: rest => (state.call first).bind fun next => next.calls rest

@[simp] theorem calls_nil (state : Lifecycle) : state.calls [] = .ok state := rfl

end Lifecycle

end Ws

end PicoTorrent

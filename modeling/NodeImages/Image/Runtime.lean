/-!
# Container runtimes

An image is removed from a node by a client of the node's container runtime, which talks to a socket. Which
socket and which client follow from the runtime that the node reports, as in `containerd://1.7.2`.
-/

namespace NodeImages.Image

/-- A container runtime. -/
inductive Runtime
  | docker
  | crio
  | containerd
  deriving DecidableEq, Repr

namespace Runtime

/-- The part of a reported version before the first `://`, which is all of it if there is none. -/
def nameChars : List Char → List Char
  | [] => []
  | ':' :: '/' :: '/' :: _ => []
  | c :: rest => c :: nameChars rest

/-- The runtime of a reported version. One that is not known is taken for containerd. -/
def ofVersion (version : String) : Runtime :=
  match String.ofList (nameChars version.toList) with
  | "docker" => docker
  | "cri-o" | "crio" => crio
  | _ => containerd

/-- The socket that the runtime listens on. -/
def socketPath : Runtime → String
  | docker => "/var/run/docker.sock"
  | crio => "/var/run/crio/crio.sock"
  | containerd => "/run/containerd/containerd.sock"

/-- The command that removes an image. -/
def removal (runtime : Runtime) (image : String) : List String :=
  match runtime with
  | docker => ["docker", "image", "rm", image]
  | runtime => ["crictl", "--runtime-endpoint", "unix://" ++ runtime.socketPath, "rmi", image]

end Runtime

end NodeImages.Image

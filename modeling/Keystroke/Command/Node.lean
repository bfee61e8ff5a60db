/-! The command tree. A node without arguments is a complete instruction; any other node asks for one
more argument word out of those it lists. -/
namespace Keystroke.Command

/-- A key press code, an annotation that may be empty, and the arguments that can follow. -/
inductive Node where
  | mk (keycode comment : String) (args : List (String × Node))
deriving Inhabited

namespace Node

/-- The key press code: two characters, optionally qualified. -/
def keycode : Node → String
  | mk keycode _ _ => keycode

/-- The annotation that tells like key presses apart, if any. -/
def comment : Node → String
  | mk _ comment _ => comment

/-- The argument words and the nodes they lead to, in order of declaration. -/
def args : Node → List (String × Node)
  | mk _ _ args => args

/-- Puts a node under a token: in place of the one already there, else at the end. -/
def putArg (token : String) (node : Node) : List (String × Node) → List (String × Node)
  | [] => [(token, node)]
  | arg :: rest =>
    if arg.1 = token then (token, node) :: rest else arg :: putArg token node rest

/-- A node with the given arguments. A repeated token keeps its first position and takes the last
node given for it. -/
def branch (keycode comment : String) (args : List (String × Node)) : Node :=
  mk keycode comment (args.foldl (fun kept arg => putArg arg.1 arg.2 kept) [])

def leaf (keycode : String) : Node :=
  mk keycode "" []

def isComplete (node : Node) : Bool :=
  node.args.isEmpty

def tokens (node : Node) : List String :=
  node.args.map (·.1)

def child? (node : Node) (token : String) : Option Node :=
  node.args.lookup token

/-- The node at the end of a path of argument words. -/
def descend? (node : Node) : List String → Option Node
  | [] => some node
  | token :: path => (node.child? token).bind (descend? · path)

mutual

/-- Visits every node below this one, each before those below it. A visit gives the new state and
whether to go on; the first one that does not ends the walk. -/
def walk {σ : Type} (visit : σ → List String → Node → σ × Bool) (path : List String) (state : σ) :
    Node → σ × Bool
  | mk _ _ args => walkArgs visit path state args

def walkArgs {σ : Type} (visit : σ → List String → Node → σ × Bool) (path : List String)
    (state : σ) : List (String × Node) → σ × Bool
  | [] => (state, true)
  | (token, child) :: rest =>
    match visit state (path ++ [token]) child with
    | (state, false) => (state, false)
    | (state, true) =>
      match walk visit (path ++ [token]) state child with
      | (state, false) => (state, false)
      | (state, true) => walkArgs visit path state rest

end

/-- Records visits until there are `limit` of them; a limit of zero is never reached. -/
def record (limit : Nat) (seen : List (List String × Node)) (path : List String) (node : Node) :
    List (List String × Node) × Bool :=
  let seen := seen ++ [(path, node)]
  (seen, seen.length != limit)

/-- The first `limit` nodes below this one with their paths, all of them if `limit` is zero. -/
def visits (node : Node) (limit : Nat) : List (List String × Node) :=
  (node.walk (record limit) [] []).1

end Node

end Keystroke.Command

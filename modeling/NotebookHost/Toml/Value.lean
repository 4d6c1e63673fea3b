namespace NotebookHost.Toml

inductive Value where
  | string (text : String)
  | integer (n : Int)
  | boolean (b : Bool)
  | float
  | time
  | array (items : List Value)
  | table (entries : List (String × Value))

def inRange (n : Int) : Bool := -9223372036854775808 ≤ n && n ≤ 9223372036854775807

end NotebookHost.Toml

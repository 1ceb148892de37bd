/-! # Pages

A standalone HTML page that shows a diagram. The title and the diagram stand in it as text, with
the three characters that could begin markup written as entities.
-/
namespace AutomatonChart.Page

def entity (c : Char) : List Char :=
  if c = '&' then "&amp;".toList
  else if c = '<' then "&lt;".toList
  else if c = '>' then "&gt;".toList
  else [c]

def escape (text : String) : String := String.ofList (text.toList.flatMap entity)

def beforeTitle : String :=
  "<!DOCTYPE html>\n<html>\n<head>\n<meta charset=\"utf-8\">\n<title>"

def beforeDiagram : String := "</title>\n</head>\n<body>\n<pre class=\"mermaid\">\n"

def afterDiagram : String :=
  "</pre>\n<script type=\"module\">\nimport mermaid from " ++
    "\"https://cdn.jsdelivr.net/npm/mermaid@10/dist/mermaid.esm.min.mjs\";\n" ++
    "mermaid.initialize(\x7b startOnLoad: true \x7d);\n</script>\n</body>\n</html>\n"

def html (title diagram : String) : String :=
  beforeTitle ++ escape title ++ beforeDiagram ++ escape diagram ++ afterDiagram

end AutomatonChart.Page

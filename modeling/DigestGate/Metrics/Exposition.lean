import DigestGate.Metrics.Registry

namespace DigestGate.Metrics

def contentType : String := "text/plain; version=1.0.0; charset=utf-8"

def escapeLabel (value : String) : String :=
  String.ofList (value.toList.flatMap fun c =>
    if c = '\\' then ['\\', '\\']
    else if c = '"' then ['\\', '"']
    else if c = '\n' then ['\\', 'n']
    else [c])

def writeLabels (labels : List (String × String)) : String :=
  if labels.isEmpty then ""
  else
    "\x7b" ++ ",".intercalate (labels.map fun (name, value) =>
      name ++ "=\"" ++ escapeLabel value ++ "\"") ++ "\x7d"

def writeSample (s : Sample) : String :=
  s.name ++ writeLabels s.labels ++ " " ++ s.value.written ++ "\n"

def writeHeading (name help kind : String) : String :=
  "# HELP " ++ name ++ " " ++ help ++ "\n# TYPE " ++ name ++ " " ++ kind ++ "\n"

def exposition (m : Metrics) : String :=
  String.join (families.map fun f =>
    writeHeading f.name f.help "counter" ++ String.join ((m.counterSamples f).map writeSample))
    ++ writeHeading histogramName histogramHelp "histogram"
    ++ String.join (m.histogramSamples.map writeSample)

end DigestGate.Metrics

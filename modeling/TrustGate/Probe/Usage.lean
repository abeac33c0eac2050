import TrustGate.Probe.Arguments

/-!
# What the probe says of its own command line
-/

namespace TrustGate.Probe

def program : String := "sslfactory-probe"

def usage : String :=
  "usage: sslfactory-probe [-h] [--config CONFIG] [--cafile CAFILE]\n" ++
  "                        [--certfile CERTFILE] [--keyfile KEYFILE]\n" ++
  "                        [--protocol \x7bTLSv1,TLSv1.1,TLSv1.2,TLSv1.3\x7d]\n" ++
  "                        [--timeout CONNECT_TIMEOUT] [--no-check-hostname]\n" ++
  "                        [--debug] [--json]\n" ++
  "                        host port\n"

/-- The text that the wish for help is answered with. -/
def help : String :=
  usage ++
  "\n" ++
  "Open one TLS connection through sslfactory and report the session.\n" ++
  "\n" ++
  "positional arguments:\n" ++
  "  host                  Remote host name or IP address\n" ++
  "  port                  Remote TCP port\n" ++
  "\n" ++
  "options:\n" ++
  "  -h, --help            show this help message and exit\n" ++
  "  --config CONFIG       TOML configuration file (flat or under an [sslfactory]\n" ++
  "                        table)\n" ++
  "  --cafile CAFILE       PEM file with the trusted CA certificates\n" ++
  "  --certfile CERTFILE   PEM client certificate chain\n" ++
  "  --keyfile KEYFILE     PEM client private key\n" ++
  "  --protocol \x7bTLSv1,TLSv1.1,TLSv1.2,TLSv1.3\x7d\n" ++
  "                        Pin the TLS protocol version\n" ++
  "  --timeout CONNECT_TIMEOUT\n" ++
  "                        Connect deadline in seconds (0 disables it)\n" ++
  "  --no-check-hostname   Do not match the certificate against the host name\n" ++
  "  --debug               Enable debug logging\n" ++
  "  --json                Print the snapshot as JSON\n"

/-- The line that tells of a fault in the command line. -/
def faultLine (fault : ArgumentFault) : String :=
  program ++ ": error: " ++ fault.message

end TrustGate.Probe

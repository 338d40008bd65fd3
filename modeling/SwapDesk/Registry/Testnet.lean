import SwapDesk.Registry.Network

/-! The test network and its seven pools. -/

namespace SwapDesk.Registry.Testnet

def feeDenom : String := "uxprt"

def tokenA : String := "persistence1u2zdjcczjrenwmf57fmrpensk4the84azdm05m3unm387rm8asdsh0yf27"

def tokenB : String := "persistence1rtdulljz3dntzpu085c7mzre9dg4trgdddu4tqk7uuuvu6xrfu8s8wcs45"

def tokenC : String := "persistence13hwj6afyxgue26f966hd5jkcvvjeruv7f9cdtd5d9mrtyrnn73ysyxvc8c"

def tokenD : String := "persistence1gd54cnu80s8qdqcyhyvn06m87vlmch2uf4wvz4z08svawvc2rhysgvav55"

def stableR : String := "persistence1rl8su3hadqqq2v86lscpuklsh2mh84cxqvjdew4jt9yd07dzekyq85jyzr"

def stableV : String := "persistence1vguuxez2h5ekltfj9gjd62fs5k4rl2zy5hfrncasykzw08rezpfst7tmng"

def stableH : String := "persistence1vhjnzk9ly03dugffvzfcwgry4dgc8x0sv0nqqtfxj3ajn7rn5ghqtpaner"

def pool1 : Descriptor where
  id := 15
  kind := .xyk
  label := "xyk"
  address := "persistence1ut5qjunqrj6pnmg9vjlm8eufulquzdgqfw4xtg02kez0fdmzn9sqv804rp"
  lpToken := "persistence1xk0s8xgktn9x5vwcgtjdxqzadg88fgn33p8u9cnpdxwemvxscvasejtgv7"
  assets := [.token tokenA, .native feeDenom]

def pool2 : Descriptor where
  id := 19
  kind := .xyk
  label := "xyk_2"
  address := "persistence1xvcthy3yrjaeg4y29c5zd2ckefgx99h2ge5ppxtwslnvyqwar7aq2lzgpz"
  lpToken := "persistence15ul08t80lm6kp6fs424e3c9gg6eys7wcvkyl6lud45ulfl0fxrnsjdek2u"
  assets := [.token tokenA, .token tokenB]

def pool3 : Descriptor where
  id := 20
  kind := .stableswap
  label := "stableswap"
  address := "persistence1k528kg8h3q56j5yazshv39fafmhjzl4540u7w36g6q2amgyrpwpsvexl2d"
  lpToken := "persistence1jdsm42szlkrsnht95w4xesk5yluud2rge9vr4vuv84sxd9w32uwsvv0lvh"
  assets := [.token tokenA, .token tokenB]

def pool4 : Descriptor where
  id := 4
  kind := .stableswap
  label := "stableswap_2"
  address := "persistence1acrmqqyqq9gwcy2upegzncahqwnzjzy89pssyt0s3ghwsrrqy94srfsw6r"
  lpToken := "persistence1kj45m8j2pqrqlw67tqde8lduzla7me38fps8tzzjl2emgp90f0gqjjf5sk"
  assets := [.token stableV, .native feeDenom]

def pool5 : Descriptor where
  id := 5
  kind := .stable5swap
  label := "stable5swap"
  address := "persistence1a7pjjyvng22a8msatp4zj6ut9tmsd9qvp26gaj7tnrjrqtx7yafqm7ezny"
  lpToken := "persistence17jllkv6clrkrwsuyxpya505rnhzwenkr4njw3um5eyqjuqm4twzqlt82eh"
  assets := [.token stableR, .token stableV]

def pool6 : Descriptor where
  id := 6
  kind := .stable5swap
  label := "stable5swap_2"
  address := "persistence1aexzn458dzh0lnuqdtzjtacq6tacnluz9ky643xdvw67en2yh97sjq6txg"
  lpToken := "persistence18yqlanxjqxx5lr8r43hsvjf0wyrlec3r8rpxgm2svrh52mzmlh4scappxa"
  assets := [.token stableR, .token stableV, .token stableH, .native feeDenom]

def pool7 : Descriptor where
  id := 7
  kind := .weighted
  label := "weighted"
  address := "persistence1j5h5zftg5su7ytz74f7rryl4f6x3p78lh907fw39eqhax75r94jsgj4n54"
  lpToken := "persistence1ejycngcuqyw2h8afhlzkq0cmjegpt96x583jh99anjzeut2rm4sqf0x4wk"
  assets := [.token stableR, .token stableV, .token stableH, .native feeDenom]

def network : Network where
  name := "testnet"
  chainId := "test-core-1"
  feeDenom := feeDenom
  accountHrp := "persistence"
  grpcEndpoint := "https://grpc.testnet.persistence.one:443"
  restEndpoint := "http://rest.testnet.persistence.one"
  vault := "persistence1jyhyqjxf3pc7vzwyqhwe53up5pj0e53zw3xu2589uqgkvqngswnqgrmstf"
  testTokens := [tokenA, tokenB, tokenC, tokenD]
  pools :=
    [("pool1", pool1), ("pool2", pool2), ("pool3", pool3), ("pool4", pool4),
     ("pool5", pool5), ("pool6", pool6), ("pool7", pool7)]
  sorted := by decide

end SwapDesk.Registry.Testnet

/-!
# The codex of the Necrons

A codex document that can be used as it is, in JSON.
-/

namespace Muster.Codex

/-- The text of the document. -/
def necrons : String :=
  "\x7b\"faction\": \"Necrons\",\n"
    ++ "\"armoury\": \x7b\n"
    ++ "\"Melee\": \x7b\n"
    ++ "\"Gauntlet of fire\": 0,\n"
    ++ "\"Hyperphase sword\": 11,\n"
    ++ "\"Massive forelimbs\": 0,\n"
    ++ "\"Staff of light\": 10,\n"
    ++ "\"Voidblade\": 0,\n"
    ++ "\"Warscythe\": 11\x7d,\n"
    ++ "\"Ranged\": \x7b\n"
    ++ "\"Gauss blaster\": 9,\n"
    ++ "\"Gauss cannon\": 20,\n"
    ++ "\"Gauss flayer\": 0,\n"
    ++ "\"Heat ray\": 54,\n"
    ++ "\"Heavy gauss cannon\": 27,\n"
    ++ "\"Particle shredder\": 35,\n"
    ++ "\"Synaptic disintegrator\": 0,\n"
    ++ "\"Tesla cannon\": 13,\n"
    ++ "\"Tesla carbine\": 9,\n"
    ++ "\"Twin heavy gauss cannon\": 30,\n"
    ++ "\"Twin tesla destructor\": 0\x7d,\n"
    ++ "\"Other\": \x7b\n"
    ++ "\"Dispersion shield\": 10,\n"
    ++ "\"Phylactery\": 15,\n"
    ++ "\"Resurrection orb\": 30\x7d\x7d,\n"
    ++ "\"units\": \x7b\n"
    ++ "\"HQ\": \x7b\n"
    ++ "\"Overlord\": \x7b\"base_points\": 84, \"size\": [1, 1], "
    ++ "\"wargear\": [\"Staff of light\"],\n"
    ++ "\"options\": [\"Staff of light/Hyperphase sword/Voidblade/Warscythe\", "
    ++ "\"Phylactery/Resurrection orb\"], \"models\": null\x7d,\n"
    ++ "\"Lord\": \x7b\"base_points\": 50, \"size\": [1, 1], \"wargear\": [\"Staff of light\"],\n"
    ++ "\"options\": [\"Staff of light/Warscythe/Voidblade+Dispersion shield+Hyperphase sword\"], "
    ++ "\"models\": null\x7d,\n"
    ++ "\"Catacomb Command Barge\": \x7b\"base_points\": 100, \"size\": [1, 1], "
    ++ "\"wargear\": [\"Gauss cannon\", \"Staff of light\"],\n"
    ++ "\"options\": [\"Gauss cannon/Tesla cannon\", "
    ++ "\"Staff of light/Hyperphase sword/Voidblade/Warscythe\"], \"models\": null\x7d\x7d,\n"
    ++ "\"Troops\": \x7b\n"
    ++ "\"Necron Warriors\": \x7b\"base_points\": 12, \"size\": [10, 20], "
    ++ "\"wargear\": [\"Gauss flayer\"],\n"
    ++ "\"options\": [\"Gauss flayer/Synaptic disintegrator-\"], \"models\": null\x7d,\n"
    ++ "\"Immortals\": \x7b\"base_points\": 17, \"size\": [5, 10], "
    ++ "\"wargear\": [\"Gauss blaster\"],\n"
    ++ "\"options\": [\"Gauss blaster/Tesla carbine\"], \"models\": null\x7d\x7d,\n"
    ++ "\"Elites\": \x7b\n"
    ++ "\"Lychguard\": \x7b\"base_points\": 25, \"size\": [5, 10], \"wargear\": [\"Warscythe\"],\n"
    ++ "\"options\": [\"Warscythe/Hyperphase sword+Dispersion shield\"], \"models\": null\x7d,\n"
    ++ "\"Triarch Stalker\": \x7b\"base_points\": 65, \"size\": [1, 1], "
    ++ "\"wargear\": [\"Heat ray\", \"Massive forelimbs\"],\n"
    ++ "\"options\": [\"Heat ray/Particle shredder/Twin heavy gauss cannon\"], "
    ++ "\"models\": null\x7d\x7d,\n"
    ++ "\"Fast Attack\": \x7b\n"
    ++ "\"Destroyers\": \x7b\"base_points\": 40, \"size\": [1, 6], "
    ++ "\"wargear\": [\"Gauss cannon\"],\n"
    ++ "\"options\": [\"Gauss cannon/Heavy gauss cannon-3\"], "
    ++ "\"models\": [\"Heavy Destroyer\"]\x7d\x7d,\n"
    ++ "\"Heavy Support\": \x7b\n"
    ++ "\"Heavy Destroyers\": \x7b\"base_points\": 40, \"size\": [1, 3], "
    ++ "\"wargear\": [\"Heavy gauss cannon\"],\n"
    ++ "\"options\": null, \"models\": null\x7d,\n"
    ++ "\"Annihilation Barge\": \x7b\"base_points\": 90, \"size\": [1, 1], "
    ++ "\"wargear\": [\"Twin tesla destructor\", \"Gauss cannon\"],\n"
    ++ "\"options\": [\"Gauss cannon/Tesla cannon\"], \"models\": null\x7d\x7d,\n"
    ++ "\"Named Characters\": \x7b\n"
    ++ "\"Imotekh the Stormlord\": \x7b\"base_points\": 180, \"size\": [1, 1], "
    ++ "\"wargear\": [\"Gauntlet of fire\", \"Phylactery\"],\n"
    ++ "\"options\": null, \"models\": null\x7d\x7d\x7d,\n"
    ++ "\"models\": \x7b\n"
    ++ "\"Heavy Destroyer\": \x7b\"points\": 40, \"limit\": 1, "
    ++ "\"wargear\": [\"Heavy gauss cannon\"], \"independent\": false\x7d\x7d\x7d"

end Muster.Codex
